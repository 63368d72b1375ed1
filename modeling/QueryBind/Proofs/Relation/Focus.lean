/-
# QueryBind.Proofs.Relation.Focus — the objects at the end of a way

The children of a batch are a part of it that can be read and replaced: what is replaced is found
again (`allChildren_replaceAll`), the batch's own children change nothing (`replaceAll_allChildren`),
and the last replacement counts (`replaceAll_replaceAll`). A `Focus` is such a part of a batch;
going into a relation composes it with the children (`Focus.into`). So a way of relation names leads
from the top-level batch to one part of it (`Model.focus?`), which is all the objects at the end of
the way, and the laws hold for ways of any length.
-/
import QueryBind.Relation.Load

namespace QueryBind

set_option autoImplicit false

variable {σ α : Type}

/-! ## The children of a batch -/

namespace Relation

variable {r : Relation σ α}

theorem length_replaceAll (targets children : List α) :
    (r.replaceAll targets children).length = targets.length := by
  induction targets generalizing children with
  | nil => rfl
  | cons t rest ih => exact congrArg (· + 1) (ih _)

theorem allChildren_cons (t : α) (rest : List α) :
    r.allChildren (t :: rest) = r.children t ++ r.allChildren rest := List.flatMap_cons

theorem replaceAll_allChildren (targets : List α) :
    r.replaceAll targets (r.allChildren targets) = targets := by
  induction targets with
  | nil => rfl
  | cons t rest ih => simp [replaceAll, allChildren_cons, replace_children, ih]

/-- As many children as a batch has, cut into those of its first object and the rest. -/
theorem length_take_drop {t : α} {rest children : List α}
    (fits : children.length = (r.allChildren (t :: rest)).length) :
    (children.take (r.children t).length).length = (r.children t).length ∧
      (children.drop (r.children t).length).length = (r.allChildren rest).length := by
  rw [allChildren_cons, List.length_append] at fits
  rw [List.length_take, List.length_drop]
  omega

theorem allChildren_replaceAll {targets children : List α}
    (fits : children.length = (r.allChildren targets).length) :
    r.allChildren (r.replaceAll targets children) = children := by
  induction targets generalizing children with
  | nil => exact (List.length_eq_zero_iff.mp fits).symm
  | cons t rest ih =>
      obtain ⟨own, others⟩ := length_take_drop fits
      rw [replaceAll, allChildren_cons, children_replace r own, ih others, List.take_append_drop]

theorem replaceAll_replaceAll {targets first second : List α}
    (fits : first.length = (r.allChildren targets).length)
    (fits' : second.length = (r.allChildren targets).length) :
    r.replaceAll (r.replaceAll targets first) second = r.replaceAll targets second := by
  induction targets generalizing first second with
  | nil => rfl
  | cons t rest ih =>
      obtain ⟨own, others⟩ := length_take_drop fits
      obtain ⟨own', others'⟩ := length_take_drop fits'
      simp only [replaceAll, children_replace r own, own, replace_replace r own own',
        ih others others']

end Relation

/-! ## Parts of a batch -/

/-- A part of the top-level batch: objects of one type, in order, which can be replaced by as many
others. -/
structure Focus (α : Type) where
  type : Nat
  /-- Every relation that leads to the part is to-one. -/
  toOne : Bool
  batch : List α → List α
  /-- The top-level batch with other objects in place of the part. -/
  put : List α → List α → List α
  put_batch : ∀ xs, put (batch xs) xs = xs
  batch_put : ∀ {ys xs}, ys.length = (batch xs).length → batch (put ys xs) = ys
  put_put : ∀ {ys zs xs}, ys.length = (batch xs).length → zs.length = (batch xs).length →
    put zs (put ys xs) = put zs xs

namespace Focus

/-- The whole batch. -/
def top (type : Nat) : Focus α where
  type
  toOne := true
  batch xs := xs
  put ys _ := ys
  put_batch _ := rfl
  batch_put _ := rfl
  put_put _ _ := rfl

/-- The children of the part. -/
def into (f : Focus α) (r : Relation σ α) : Focus α where
  type := r.child
  toOne := f.toOne && r.toOne
  batch xs := r.allChildren (f.batch xs)
  put ys xs := f.put (r.replaceAll (f.batch xs) ys) xs
  put_batch xs := by rw [Relation.replaceAll_allChildren, f.put_batch]
  batch_put fits := by
    rw [f.batch_put (Relation.length_replaceAll _ _), Relation.allChildren_replaceAll fits]
  put_put fits fits' := by
    rw [f.batch_put (Relation.length_replaceAll _ _), Relation.replaceAll_replaceAll fits fits',
      f.put_put (Relation.length_replaceAll _ _) (Relation.length_replaceAll _ _)]

section

variable {f : Focus α} {r : Relation σ α} {cs xs : List α} (fits : cs.length = (f.batch xs).length)

include fits

/-- The children of a part that was put back are those of what was put back. -/
theorem batch_into_put : (f.into r).batch (f.put cs xs) = r.allChildren cs :=
  congrArg r.allChildren (f.batch_put fits)

/-- Putting back a part and then its children is putting back the part with its children. -/
theorem put_into_put (ds : List α) :
    (f.into r).put ds (f.put cs xs) = f.put (r.replaceAll cs ds) xs := by
  show f.put (r.replaceAll (f.batch (f.put cs xs)) ds) (f.put cs xs) = _
  rw [f.batch_put fits, f.put_put fits ((Relation.length_replaceAll _ _).trans fits)]

end

end Focus

/-! ## Ways -/

namespace Model

/-- The relation of a type with a name. -/
def relation? (m : Model σ α) (type : Nat) (name : String) : Option (Relation σ α) :=
  (m.registry type).bind (·.get? name)

/-- The objects at the end of a way of relation names, from a batch of objects of one type: the
children of all objects of the batch, in the order of the objects and of their children, and so
on. -/
def reached (m : Model σ α) : (type : Nat) → (way : List String) → List α → List α
  | _, [], objects => objects
  | type, name :: way, objects =>
      match m.relation? type name with
      | some r => reached m r.child way (objects.flatMap r.children)
      | none => []

/-- Every relation of a way is to-one. -/
def allToOne (m : Model σ α) : (type : Nat) → (way : List String) → Bool
  | _, [] => true
  | type, name :: way =>
      match m.relation? type name with
      | some r => r.toOne && allToOne m r.child way
      | none => true

/-- The part of a part to which a way leads. -/
def focusFrom? (m : Model σ α) (f : Focus α) : (way : List String) → Option (Focus α)
  | [] => some f
  | name :: way =>
      match m.relation? f.type name with
      | some r => focusFrom? m (f.into r) way
      | none => none

/-- The part of a batch to which a way leads. -/
def focus? (m : Model σ α) (type : Nat) (way : List String) : Option (Focus α) :=
  m.focusFrom? (.top type) way

variable {m : Model σ α} {way : List String}

theorem focusFrom?_into {f g : Focus α} (leads : m.focusFrom? f way = some g) {name : String}
    {r : Relation σ α} (related : m.relation? g.type name = some r) :
    m.focusFrom? f (way ++ [name]) = some (g.into r) := by
  induction way generalizing f with
  | nil =>
      obtain rfl : f = g := Option.some.inj leads
      simp [focusFrom?, related]
  | cons first way ih =>
      simp only [List.cons_append, focusFrom?] at leads ⊢
      cases first : m.relation? f.type first with
      | none => simp [first] at leads
      | some r' =>
          rw [first] at leads
          exact ih leads

theorem focusFrom?_eq_some {f g : Focus α} (leads : m.focusFrom? f way = some g)
    (objects : List α) : g.batch objects = m.reached f.type way (f.batch objects) ∧
      g.toOne = (f.toOne && m.allToOne f.type way) := by
  induction way generalizing f with
  | nil =>
      obtain rfl : f = g := Option.some.inj leads
      simp [reached, allToOne]
  | cons name way ih =>
      simp only [focusFrom?, reached, allToOne] at leads ⊢
      cases related : m.relation? f.type name with
      | none => simp [related] at leads
      | some r =>
          rw [related] at leads
          simpa [Focus.into, Relation.allChildren, Bool.and_assoc] using ih leads

theorem focusFrom?_eq_none {f : Focus α} (strays : m.focusFrom? f way = none) (objects : List α) :
    m.reached f.type way (f.batch objects) = [] := by
  induction way generalizing f with
  | nil => simp [focusFrom?] at strays
  | cons name way ih =>
      simp only [focusFrom?, reached] at strays ⊢
      cases related : m.relation? f.type name with
      | none => rfl
      | some r =>
          rw [related] at strays
          exact ih strays

variable {type : Nat}

theorem batch_eq_reached {f : Focus α} (leads : m.focus? type way = some f) (objects : List α) :
    f.batch objects = m.reached type way objects :=
  (focusFrom?_eq_some leads objects).1

theorem toOne_eq_allToOne {f : Focus α} (leads : m.focus? type way = some f) :
    f.toOne = m.allToOne type way :=
  (focusFrom?_eq_some leads []).2

theorem reached_of_strays (strays : m.focus? type way = none) (objects : List α) :
    m.reached type way objects = [] :=
  focusFrom?_eq_none strays objects

theorem reached_nil (type : Nat) (way : List String) : m.reached type way [] = [] := by
  induction way generalizing type with
  | nil => rfl
  | cons name way ih =>
      simp only [reached, List.flatMap_nil, ih]
      split <;> rfl

/-- Nothing is reached behind nothing. -/
theorem reached_append_eq_nil {objects : List α} (empty : m.reached type way objects = [])
    (more : List String) : m.reached type (way ++ more) objects = [] := by
  induction way generalizing type objects with
  | nil =>
      obtain rfl : objects = [] := empty
      exact reached_nil type more
  | cons name way ih =>
      simp only [List.cons_append, reached] at empty ⊢
      split at empty
      · exact ih empty
      · rfl

end Model

end QueryBind
