/-
# QueryBind.Proofs.Record.Flattening — the leaves are all scalar fields, in table order

`Schema.leavesFrom` counts the levels that are left and hands each field its own trail. Carried out
with one trail for all fields, flattening is a walk over the tables: an index is put on the trail
before its field is looked at and taken off after it, and nothing but the length of the trail keeps
the walk from going round in a recursive type for ever. `Schema.Flattens` is that walk, one rule for
each way in which a field is dealt with.

* The walk ends, in one way only, with the trail it found and the leaves that `leavesFrom` has
  (`flattens_iff`).
* The leaves are the scalar fields within seven levels, under their dotted names
  (`mem_leaves_iff`).
* Their trails increase lexicographically (`leavesFrom_increasing`), so no field comes twice and an
  outer table's order counts before an inner one's.
-/
import Mathlib.Data.List.Basic
import QueryBind.Proofs.Record.Leaves

namespace QueryBind

set_option autoImplicit false

namespace Schema

/-! ## One trail for all fields -/

/-- What the walk carries: the trail to the field it is at, and the leaves it has found. -/
structure Walk where
  trail : List Nat
  found : List Leaf

namespace Walk

def enter (w : Walk) (index : Nat) : Walk := { w with trail := w.trail ++ [index] }

def leave (w : Walk) : Walk := { w with trail := w.trail.dropLast }

/-- The field at the end of the trail is a leaf. -/
def collect (w : Walk) (name : String) : Walk := { w with found := w.found ++ [⟨name, w.trail⟩] }

@[simp] theorem trail_enter (w : Walk) (index : Nat) :
    (w.enter index).trail = w.trail ++ [index] := rfl

@[simp] theorem found_enter (w : Walk) (index : Nat) : (w.enter index).found = w.found := rfl

@[simp] theorem trail_leave (w : Walk) : w.leave.trail = w.trail.dropLast := rfl

@[simp] theorem found_leave (w : Walk) : w.leave.found = w.found := rfl

@[simp] theorem leave_enter (w : Walk) (index : Nat) : (w.enter index).leave = w := by
  simp [enter, leave]

@[simp] theorem leave_collect_enter (w : Walk) (index : Nat) (name : String) :
    ((w.enter index).collect name).leave =
      { w with found := w.found ++ [⟨name, w.trail ++ [index]⟩] } := by
  simp [enter, leave, collect]

end Walk

/-- The walk over fields with their indices, below a qualifier. -/
inductive Flattens (s : Schema) : (qualifier : String) → List (Field × Nat) → Walk → Walk → Prop
  where
  | done (qualifier : String) (w : Walk) : Flattens s qualifier [] w w
  | scalar {qualifier name : String} {t : FieldType} {index : Nat} {rest : List (Field × Nat)}
      {w after : Walk}
      (onward : Flattens s qualifier rest
        ((w.enter index).collect (Leaf.qualify qualifier name)).leave after) :
      Flattens s qualifier ((⟨name, .scalar t⟩, index) :: rest) w after
  | nested {qualifier name : String} {type index : Nat} {hold : Hold}
      {rest : List (Field × Nat)} {w below after : Walk}
      (shallow : (w.enter index).trail.length < FieldPath.maxDepth)
      (inner : Flattens s (Leaf.qualify qualifier name) (s.fields type).zipIdx (w.enter index) below)
      (onward : Flattens s qualifier rest below.leave after) :
      Flattens s qualifier ((⟨name, .nested type hold⟩, index) :: rest) w after
  /-- A record on the last level is not entered. -/
  | deepest {qualifier name : String} {type index : Nat} {hold : Hold}
      {rest : List (Field × Nat)} {w after : Walk}
      (deep : ¬ (w.enter index).trail.length < FieldPath.maxDepth)
      (onward : Flattens s qualifier rest (w.enter index).leave after) :
      Flattens s qualifier ((⟨name, .nested type hold⟩, index) :: rest) w after

variable {s : Schema}

/-- The leaves of one field of a table, with that many levels below it. -/
def leavesAt (s : Schema) (levels : Nat) (qualifier : String) (trail : List Nat) :
    Field × Nat → List Leaf
  | (⟨name, .scalar _⟩, index) => [⟨Leaf.qualify qualifier name, trail ++ [index]⟩]
  | (⟨name, .nested type _⟩, index) =>
      s.leavesFrom levels (Leaf.qualify qualifier name) (trail ++ [index]) (s.fields type)

theorem leavesFrom_succ (levels : Nat) (qualifier : String) (trail : List Nat)
    (fields : List Field) : s.leavesFrom (levels + 1) qualifier trail fields =
      fields.zipIdx.flatMap (s.leavesAt levels qualifier trail) := by
  refine congrArg (List.flatMap · fields.zipIdx) (funext fun ⟨⟨name, shape⟩, index⟩ => ?_)
  cases shape <;> rfl

namespace Flattens

variable {qualifier : String} {entries : List (Field × Nat)} {w after : Walk}

/-- The trail is left as it was found. -/
theorem trail_eq (walk : s.Flattens qualifier entries w after) : after.trail = w.trail := by
  induction walk with
  | done qualifier w => rfl
  | scalar onward ih => simpa using ih
  | nested shallow inner onward below ih => simpa [below] using ih
  | deepest deep onward ih => simpa using ih

/-- The walk adds the leaves of its fields, with the levels that the trail leaves room for. -/
theorem found_eq (walk : s.Flattens qualifier entries w after)
    (room : w.trail.length < FieldPath.maxDepth) :
    after.found = w.found ++ entries.flatMap
      (s.leavesAt (FieldPath.maxDepth - (w.trail.length + 1)) qualifier w.trail) := by
  induction walk with
  | done qualifier w => simp
  | scalar onward ih =>
      rw [Walk.leave_collect_enter] at ih
      simp [ih room, leavesAt]
  | @nested qualifier name type index hold rest w below after shallow inner onward ih ih' =>
      have back : below.leave.trail = w.trail := by simp [inner.trail_eq]
      rw [back] at ih'
      have levels : FieldPath.maxDepth - (w.trail.length + 1) =
          FieldPath.maxDepth - ((w.enter index).trail.length + 1) + 1 := by
        simp only [Walk.trail_enter, List.length_append, List.length_singleton] at shallow ⊢
        omega
      have entered : s.leavesAt (FieldPath.maxDepth - (w.trail.length + 1)) qualifier w.trail
          (⟨name, .nested type hold⟩, index) = (s.fields type).zipIdx.flatMap
            (s.leavesAt (FieldPath.maxDepth - ((w.enter index).trail.length + 1))
              (Leaf.qualify qualifier name) (w.enter index).trail) := by
        rw [leavesAt, levels, leavesFrom_succ]
        rfl
      rw [ih' room, List.flatMap_cons, entered, Walk.found_leave, ih shallow, Walk.found_enter,
        List.append_assoc]
  | @deepest qualifier name type index hold rest w after deep onward ih =>
      rw [Walk.leave_enter] at ih
      have none_left : FieldPath.maxDepth - (w.trail.length + 1) = 0 := by
        simp only [Walk.trail_enter, List.length_append, List.length_singleton] at deep
        omega
      rw [ih room, List.flatMap_cons, none_left]
      rfl

end Flattens

/-- The walk ends: the trail grows by one on the way down, and has room for seven. -/
theorem exists_flattens (qualifier : String) (entries : List (Field × Nat)) (w : Walk)
    (room : w.trail.length < FieldPath.maxDepth) :
    ∃ after, s.Flattens qualifier entries w after := by
  obtain ⟨levels, left⟩ : ∃ levels, w.trail.length + levels = FieldPath.maxDepth :=
    Nat.exists_eq_add_of_le room.le |>.imp fun _ eq => eq.symm
  induction levels generalizing qualifier entries w with
  | zero => omega
  | succ levels deeper =>
      induction entries generalizing w with
      | nil => exact ⟨w, .done qualifier w⟩
      | cons entry rest ih =>
          obtain ⟨⟨name, shape⟩, index⟩ := entry
          cases shape with
          | scalar t =>
              obtain ⟨after, onward⟩ :=
                ih ((w.enter index).collect (Leaf.qualify qualifier name)).leave
                  (by simpa using room) (by simpa using left)
              exact ⟨after, .scalar onward⟩
          | nested type hold =>
              by_cases shallow : (w.enter index).trail.length < FieldPath.maxDepth
              · have fewer : (w.enter index).trail.length + levels = FieldPath.maxDepth := by
                  simp only [Walk.trail_enter, List.length_append, List.length_singleton]
                  omega
                obtain ⟨below, inner⟩ := deeper (Leaf.qualify qualifier name)
                  (s.fields type).zipIdx (w.enter index) shallow fewer
                have back : below.leave.trail = w.trail := by simp [inner.trail_eq]
                obtain ⟨after, onward⟩ := ih below.leave (back ▸ room) (back ▸ left)
                exact ⟨after, .nested shallow inner onward⟩
              · obtain ⟨after, onward⟩ := ih (w.enter index).leave (by simpa using room)
                  (by simpa using left)
                exact ⟨after, .deepest shallow onward⟩

/-- The walk over a table ends in one way: with the trail it found, and the leaves of `leavesFrom`
added. -/
theorem flattens_iff (qualifier : String) (fields : List Field) {w : Walk}
    (room : w.trail.length < FieldPath.maxDepth) (after : Walk) :
    s.Flattens qualifier fields.zipIdx w after ↔ after = ⟨w.trail, w.found ++
      s.leavesFrom (FieldPath.maxDepth - w.trail.length) qualifier w.trail fields⟩ := by
  have levels : FieldPath.maxDepth - w.trail.length =
      FieldPath.maxDepth - (w.trail.length + 1) + 1 := by omega
  have ends {after : Walk} (walk : s.Flattens qualifier fields.zipIdx w after) : after =
      ⟨w.trail, w.found ++
        s.leavesFrom (FieldPath.maxDepth - w.trail.length) qualifier w.trail fields⟩ := by
    rw [levels, leavesFrom_succ, ← walk.found_eq room, ← walk.trail_eq]
  refine ⟨ends, fun same => ?_⟩
  obtain ⟨final, walk⟩ := exists_flattens qualifier fields.zipIdx w room
  rw [same, ← ends walk]
  exact walk

/-! ## Table order -/

theorem trail_of_mem_leavesFrom {levels : Nat} {qualifier : String} {trail : List Nat}
    {fields : List Field} {leaf : Leaf}
    (member : leaf ∈ s.leavesFrom levels qualifier trail fields) : trail <+: leaf.trail := by
  induction levels generalizing qualifier trail fields with
  | zero => simp [leavesFrom] at member
  | succ levels ih =>
      rw [leavesFrom_succ, List.mem_flatMap] at member
      obtain ⟨⟨⟨name, shape⟩, index⟩, -, member⟩ := member
      have further : trail <+: trail ++ [index] := List.prefix_append trail [index]
      cases shape with
      | scalar t =>
          obtain rfl := List.mem_singleton.mp member
          exact further
      | nested type hold => exact further.trans (ih member)

theorem trail_of_mem_leavesAt {levels : Nat} {qualifier : String} {trail : List Nat}
    {field : Field} {index : Nat} {leaf : Leaf}
    (member : leaf ∈ s.leavesAt levels qualifier trail (field, index)) :
    ∃ rest, leaf.trail = trail ++ index :: rest := by
  obtain ⟨name, shape⟩ := field
  have onward : trail ++ [index] <+: leaf.trail := by
    cases shape with
    | scalar t =>
        obtain rfl := List.mem_singleton.mp member
        exact List.prefix_refl _
    | nested type hold => exact trail_of_mem_leavesFrom member
  obtain ⟨rest, split⟩ := onward
  exact ⟨rest, by rw [← split, List.append_assoc, List.singleton_append]⟩

/-- The indices of a table increase. -/
theorem pairwise_zipIdx (fields : List Field) :
    fields.zipIdx.Pairwise fun entry later => entry.2 < later.2 := by
  rw [← List.pairwise_map (f := Prod.snd) (R := (· < ·)), List.zipIdx_map_snd]
  exact List.pairwise_lt_range' 1

/-- The trails of the leaves increase. -/
theorem leavesFrom_increasing (levels : Nat) (qualifier : String) (trail : List Nat)
    (fields : List Field) : (s.leavesFrom levels qualifier trail fields).Pairwise
      fun leaf later => leaf.trail < later.trail := by
  induction levels generalizing qualifier trail fields with
  | zero => exact .nil
  | succ levels ih =>
      rw [leavesFrom_succ, List.pairwise_flatMap]
      constructor
      · rintro ⟨⟨name, shape⟩, index⟩ -
        cases shape with
        | scalar t => exact List.pairwise_singleton _ _
        | nested type hold => exact ih _ _ _
      · refine (pairwise_zipIdx fields).imp fun {entry later} less leaf member leaf' member' => ?_
        obtain ⟨rest, split⟩ := trail_of_mem_leavesAt member
        obtain ⟨rest', split'⟩ := trail_of_mem_leavesAt member'
        rw [split, split']
        exact List.append_left_lt (List.cons_lt_cons_iff.mpr (.inl less))

/-! ## All scalar fields -/

theorem mem_leaves_iff {type : Nat} {leaf : Leaf} : leaf ∈ s.leaves type ↔
    s.IsScalar type leaf.trail ∧ leaf.trail.length ≤ FieldPath.maxDepth ∧
      leaf.name = Leaf.dotted (s.names type leaf.trail) := by
  constructor
  · intro member
    obtain ⟨t, leads, named⟩ := mem_leaves member
    exact ⟨⟨t, leads⟩, length_trail_le member, named⟩
  · rintro ⟨⟨t, leads⟩, short, named⟩
    have member := mem_leaves_of_scalar leads short
    rwa [← named] at member

/-- **Flattening lists every scalar field once, in table order.** For every type of every schema,
recursive ones included:

* the walk over the type's table, begun with an empty trail and nothing found, ends, and it ends in
  one way, with an empty trail and the type's leaves;
* every walk, those over nested tables included, leaves the trail as it found it;
* the leaves are the trails of one to seven indices that lead through nested records to a scalar
  field, each under the non-empty names on it, joined by dots;
* they are listed in lexicographic order of their trails, no trail twice. -/
theorem flattening_lists_scalars (s : Schema) (type : Nat) :
    (∀ after, s.Flattens "" (s.fields type).zipIdx ⟨[], []⟩ after ↔ after = ⟨[], s.leaves type⟩) ∧
      (∀ qualifier entries w after, s.Flattens qualifier entries w after → after.trail = w.trail) ∧
      (∀ name trail, ⟨name, trail⟩ ∈ s.leaves type ↔
        (1 ≤ trail.length ∧ trail.length ≤ 7) ∧ s.IsScalar type trail ∧
          name = ".".intercalate ((s.names type trail).filter (· ≠ ""))) ∧
      ((s.leaves type).map (·.trail)).Pairwise (· < ·) ∧
      ((s.leaves type).map (·.trail)).Nodup := by
  have increasing : ((s.leaves type).map (·.trail)).Pairwise (· < ·) :=
    List.pairwise_map.mpr (leavesFrom_increasing _ _ _ _)
  refine ⟨fun after => ?_, fun _ _ _ _ walk => walk.trail_eq, fun name trail => ?_, increasing, ?_⟩
  · have top : ([] : List Nat).length < FieldPath.maxDepth := by decide
    exact flattens_iff "" (s.fields type) (w := ⟨[], []⟩) top after
  · rw [mem_leaves_iff]
    constructor
    · rintro ⟨scalar, short, named⟩
      exact ⟨⟨List.length_pos_iff.mpr (trail_ne_nil scalar), short⟩, scalar, named⟩
    · rintro ⟨⟨-, short⟩, scalar, named⟩
      exact ⟨scalar, short, named⟩
  · refine increasing.imp fun {trail later} less same => ?_
    subst same
    exact List.lt_irrefl trail less

/-- A type that leads to itself has a leaf on each level. -/
example : (leaves [⟨"Link", [⟨"x", .scalar (.required .int64)⟩, ⟨"next", .nested 0 .optional⟩]⟩]
    0).map (·.trail) = [[0], [1, 0], [1, 1, 0], [1, 1, 1, 0], [1, 1, 1, 1, 0],
      [1, 1, 1, 1, 1, 0], [1, 1, 1, 1, 1, 1, 0]] := by
  decide

end Schema

end QueryBind
