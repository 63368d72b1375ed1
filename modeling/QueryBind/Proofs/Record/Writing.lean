/-
# QueryBind.Proofs.Record.Writing — what storing changes, and what it leaves

A store replaces one scalar field and makes the unset optional records on its way blank ones. So
every other scalar field is what it was, unless it lies behind a record that was allocated: then it
is blank, as in a blank instance of the innermost allocated record's type.

`Retains` is that law for the cells. `retains_allocateCells` proves it for allocation by recursion
on the two trails, `retains_stored` for one store, `Retains.trans` for one store after another, and
`storeAll_retains` for a row.
-/
import QueryBind.Proofs.Record.Access

namespace QueryBind

set_option autoImplicit false

namespace Cell

variable {s : Schema}

/-- The content of a scalar cell. -/
def held? : Cell → Option Held
  | .scalar held => some held
  | _ => none

theorem at?_cons {cells : List Cell} {i : Nat} {cell : Cell} (there : cells[i]? = some cell)
    (rest : List Nat) : (Cell.record cells).at? (i :: rest) = cell.at? rest := by
  simp only [at?, there]

theorem at?_set_self {cells : List Cell} {i : Nat} {cell : Cell} (there : cells[i]? = some cell)
    (new : Cell) (rest : List Nat) :
    (Cell.record (cells.set i new)).at? (i :: rest) = new.at? rest :=
  at?_cons (getElem?_set_of_some there new) rest

theorem at?_set_ne (cells : List Cell) {i k : Nat} (apart : i ≠ k) (new : Cell) (rest : List Nat) :
    (Cell.record (cells.set i new)).at? (k :: rest) = (Cell.record cells).at? (k :: rest) := by
  simp only [at?, List.getElem?_set_ne apart]

theorem at?_append (cell : Cell) (way rest : List Nat) :
    cell.at? (way ++ rest) = (cell.at? way).bind (·.at? rest) := by
  induction way generalizing cell with
  | nil => rfl
  | cons i way ih =>
      cases cell with
      | record cells =>
          simp only [List.cons_append, at?]
          cases cells[i]? with
          | none => rfl
          | some inner => exact ih inner
      | scalar held => rfl
      | unset => rfl

theorem at?_singleton (cells : List Cell) (i : Nat) : (Cell.record cells).at? [i] = cells[i]? := by
  simp only [at?]
  cases cells[i]? <;> rfl

/-- A step on the way to a scalar cell goes into a record. -/
theorem exists_record_of_at? {cells : List Cell} {i : Nat} {rest : List Nat} {held : Held}
    (found : (Cell.record cells).at? (i :: rest) = some (.scalar held)) (further : rest ≠ []) :
    ∃ inner, cells[i]? = some (.record inner) ∧
      (Cell.record inner).at? rest = some (.scalar held) := by
  obtain ⟨j, rest, rfl⟩ := List.exists_cons_of_ne_nil further
  simp only [at?] at found
  split at found
  · next cell there =>
      cases cell with
      | record inner => exact ⟨inner, there, found⟩
      | scalar other => cases found
      | unset => cases found
  · cases found

/-- The records on the way to a scalar cell are there. -/
theorem present_of_at? {cell : Cell} {way rest : List Nat} {held : Held}
    (found : cell.at? (way ++ rest) = some (.scalar held)) (further : rest ≠ []) :
    cell.Present way := by
  obtain ⟨j, rest, rfl⟩ := List.exists_cons_of_ne_nil further
  rw [at?_append] at found
  obtain ⟨inner, passed, onward⟩ := Option.bind_eq_some_iff.mp found
  cases inner with
  | record cells => exact ⟨cells, passed⟩
  | scalar other => cases onward
  | unset => cases onward

/-- Nothing is behind a scalar cell. -/
theorem at?_past_scalar {cell : Cell} {way rest : List Nat} {held : Held}
    (found : cell.at? way = some (.scalar held)) (further : rest ≠ []) :
    cell.at? (way ++ rest) = none := by
  obtain ⟨j, rest, rfl⟩ := List.exists_cons_of_ne_nil further
  rw [at?_append, found]
  rfl

/-- Opening a record does not bring the optional records below it there. -/
theorem present_opened {type inner : Nat} {hold : Hold} {cell : Cell} {way : List Nat}
    (fit : cell.Fits s (.nested inner hold))
    (optional : s.shapeAt? inner way = some (.nested type .optional)) :
    (Cell.record (cell.opened s inner)).Present way ↔ cell.Present way := by
  cases fit with
  | record width each => rfl
  | unset =>
      have deeper : way ≠ [] := by
        rintro rfl
        simp [Schema.shapeAt?, Shape.at?] at optional
      have blank := Schema.not_present_blankCells s.length inner .inline way type deeper optional
      obtain ⟨i, rest, rfl⟩ := List.exists_cons_of_ne_nil deeper
      simp only [opened_unset]
      exact iff_of_false blank (by simp [Present])

end Cell

namespace Schema

/-- A trail to a scalar field is no way to another one. -/
theorem eq_of_prefix {s : Schema} {type : Nat} {way trail : List Nat} (scalar : s.IsScalar type way)
    (scalar' : s.IsScalar type trail) (passes : way <+: trail) : way = trail := by
  obtain ⟨t, leads⟩ := scalar
  obtain ⟨t', leads'⟩ := scalar'
  obtain ⟨rest, rfl⟩ := passes
  rw [shapeAt?_append leads] at leads'
  cases rest with
  | nil => rw [List.append_nil]
  | cons i rest => cases leads'

end Schema

namespace Record

variable {s : Schema}

/-! ## Allocation -/

/-- Storing at the trails has to allocate the optional record of that type at the end of the way:
it is unset, or behind an unset one, and a trail passes through it. -/
structure Allocates (s : Schema) (r : Record) (trails : List (List Nat)) (way : List Nat)
    (type : Nat) : Prop where
  optional : s.shapeAt? r.type way = some (.nested type .optional)
  absent : ¬ (Cell.record r.cells).Present way
  passed : ∃ trail ∈ trails, way <+: trail

/-- The innermost record on the way of a trail that storing at the trails has to allocate. -/
structure AllocatesLast (s : Schema) (r : Record) (trails : List (List Nat)) (trail : List Nat)
    (way : List Nat) (type : Nat) : Prop where
  allocates : r.Allocates s trails way type
  passed : way <+: trail
  innermost : ∀ other type', r.Allocates s trails other type' → other <+: trail →
    other.length ≤ way.length

theorem Allocates.ne_nil {r : Record} {trails : List (List Nat)} {way : List Nat} {type : Nat}
    (allocates : r.Allocates s trails way type) : way ≠ [] := by
  rintro rfl
  simpa [Schema.shapeAt?, Shape.at?] using allocates.optional

/-- What is to be allocated below a nested record, seen from the record that is opened for it. -/
theorem allocates_below {type i inner : Nat} {name : String} {hold : Hold} {cells : List Cell}
    {cell : Cell} (found : (s.fields type)[i]? = some ⟨name, .nested inner hold⟩)
    (there : cells[i]? = some cell) (fit : cell.Fits s (.nested inner hold)) {way rest : List Nat}
    {type' : Nat} (deeper : way ≠ []) :
    Allocates s ⟨type, cells⟩ [i :: rest] (i :: way) type' ↔
      Allocates s ⟨inner, cell.opened s inner⟩ [rest] way type' := by
  have shape := Schema.shapeAt?_below found deeper
  have cells_at : (Cell.record cells).Present (i :: way) ↔ cell.Present way := by
    simp only [Cell.Present, Cell.at?_cons there]
  constructor
  · rintro ⟨optional, absent, passed⟩
    rw [shape] at optional
    rw [cells_at, ← Cell.present_opened fit optional] at absent
    exact ⟨optional, absent, by simpa using passed⟩
  · rintro ⟨optional, absent, passed⟩
    rw [Cell.present_opened fit optional, ← cells_at] at absent
    exact ⟨shape ▸ optional, absent, by simpa using passed⟩

theorem AllocatesLast.below {type i inner : Nat} {name : String} {hold : Hold} {cells : List Cell}
    {cell : Cell} (found : (s.fields type)[i]? = some ⟨name, .nested inner hold⟩)
    (there : cells[i]? = some cell) (fit : cell.Fits s (.nested inner hold))
    {trail rest way : List Nat} {type' : Nat} (deeper : way ≠ [])
    (last : AllocatesLast s ⟨type, cells⟩ [i :: trail] (i :: rest) (i :: way) type') :
    AllocatesLast s ⟨inner, cell.opened s inner⟩ [trail] rest way type' := by
  refine ⟨(allocates_below found there fit deeper).mp last.allocates,
    (List.cons_prefix_cons.mp last.passed).2, fun other type' allocates passed => ?_⟩
  have outer := (allocates_below found there fit allocates.ne_nil).mpr allocates
  simpa using last.innermost (i :: other) type' outer (List.cons_prefix_cons.mpr ⟨rfl, passed⟩)

/-- After allocation the optional records are there that were there before, and those that the
trail passes. -/
theorem present_allocateCells (grounded : s.Grounded) {type : Nat} {trail : List Nat}
    {t : FieldType} (leads : s.shapeAt? type trail = some (.scalar t)) {cells : List Cell}
    (fits : (Cell.record cells).Fits s (.nested type .inline)) {way : List Nat} {type' : Nat}
    (optional : s.shapeAt? type way = some (.nested type' .optional)) :
    (Cell.record (allocateCells s (s.fields type) trail cells)).Present way ↔
      (Cell.record cells).Present way ∨ way <+: trail := by
  cases way with
  | nil => simp [Schema.shapeAt?, Shape.at?] at optional
  | cons k way =>
  induction type, trail, leads using Schema.scalar_induction generalizing cells k way with
  | last type i name leads found =>
      have apart : k ≠ i := by
        rintro rfl
        rw [Schema.shapeAt?_cons, found] at optional
        cases way <;> simp [Shape.at?] at optional
      simp only [allocateCells, List.cons_prefix_cons, apart, false_and, or_false]
  | below type i name inner hold rest leads onward found further ih =>
      obtain ⟨cell, there, fit⟩ := fits.cell found
      rw [allocateCells_below found there fit further]
      by_cases same : i = k
      · subst same
        simp only [Cell.Present, Cell.at?_set_self there, Cell.at?_cons there,
          List.cons_prefix_cons, true_and]
        cases way with
        | nil => simp [Cell.at?]
        | cons k way =>
            rw [Schema.shapeAt?_below found (by simp)] at optional
            have opened := ih (fit.opened grounded .inline) k way optional
            rw [Cell.present_opened fit optional] at opened
            exact opened
      · simp only [Cell.Present, Cell.at?_set_ne cells same, List.cons_prefix_cons,
          Ne.symm same, false_and, or_false]

/-! ## What is kept -/

/-- What the cell at a trail is after stores at other trails: the one from before, or a blank one
if it lies behind a record that was allocated. -/
structure Retains (s : Schema) (before after : Record) (trails : List (List Nat))
    (trail : List Nat) : Prop where
  kept : (∀ way type, before.Allocates s trails way type → ¬ way <+: trail) →
    (Cell.record after.cells).at? trail = (Cell.record before.cells).at? trail
  fresh : ∀ way type rest, before.AllocatesLast s trails trail way type → trail = way ++ rest →
    (Cell.record after.cells).at? trail = (Cell.record (s.blank type)).at? rest

/-- Trails that part at their first index share no optional record. -/
theorem retains_of_apart {before after : Record} {i k : Nat} {trail rest : List Nat}
    (apart : i ≠ k) (same : (Cell.record after.cells).at? (k :: rest) =
      (Cell.record before.cells).at? (k :: rest)) :
    Retains s before after [i :: trail] (k :: rest) := by
  refine ⟨fun _ => same, fun way type below last split => ?_⟩
  obtain ⟨trail', member, passed⟩ := last.allocates.passed
  obtain rfl := List.mem_singleton.mp member
  cases way with
  | nil => exact absurd rfl last.allocates.ne_nil
  | cons j way =>
      obtain ⟨rfl, -⟩ := List.cons_prefix_cons.mp passed
      exact absurd (List.cons_prefix_cons.mp last.passed).1 apart

/-- The law below a nested record, from the law for the record that is opened for it. -/
theorem retains_below {type i inner : Nat} {name : String} {hold : Hold} {cells : List Cell}
    {cell : Cell} (found : (s.fields type)[i]? = some ⟨name, .nested inner hold⟩)
    (there : cells[i]? = some cell) (fit : cell.Fits s (.nested inner hold))
    {trail rest : List Nat} {after : Record} {new : List Cell}
    (opens : (Cell.record after.cells).at? (i :: rest) = (Cell.record new).at? rest)
    (law : Retains s ⟨inner, cell.opened s inner⟩ ⟨inner, new⟩ [trail] rest) :
    Retains s ⟨type, cells⟩ after [i :: trail] (i :: rest) := by
  -- what is allocated further in is allocated from outside, too
  have outer {way : List Nat} {type' : Nat}
      (allocates : Allocates s ⟨inner, cell.opened s inner⟩ [trail] way type') :
      Allocates s ⟨type, cells⟩ [i :: trail] (i :: way) type' :=
    (allocates_below found there fit allocates.ne_nil).mpr allocates
  constructor
  · intro unopened
    have kept := law.kept fun way type' allocates passed =>
      unopened (i :: way) type' (outer allocates) (List.cons_prefix_cons.mpr ⟨rfl, passed⟩)
    cases fit with
    | record width each => rw [opens, Cell.at?_cons there]; exact kept
    | unset =>
        have itself : Allocates s ⟨type, cells⟩ [i :: trail] [i] inner :=
          ⟨by simp [Schema.shapeAt?_cons, found, Shape.at?],
            by simp [Cell.Present, Cell.at?, there], by simp⟩
        exact absurd (List.cons_prefix_cons.mpr ⟨rfl, List.nil_prefix⟩)
          (unopened [i] inner itself)
  · intro way type' below last split
    obtain ⟨k, way, rfl⟩ := List.exists_cons_of_ne_nil last.allocates.ne_nil
    obtain ⟨rfl, onward⟩ := List.cons.inj split
    by_cases here : way = []
    · -- the nested record is the innermost one, so nothing further in is allocated
      subst here
      have kept := law.kept fun other type' allocates passed => by
        have short := last.innermost _ _ (outer allocates) (List.cons_prefix_cons.mpr ⟨rfl, passed⟩)
        exact allocates.ne_nil (List.eq_nil_of_length_eq_zero (by simpa using short))
      cases fit with
      | record width each => exact absurd ⟨_, Cell.at?_cons there []⟩ last.allocates.absent
      | unset =>
          have same := last.allocates.optional
          simp only [Schema.shapeAt?_cons, found, Option.bind_some, Shape.at?, Option.some.injEq,
            Shape.nested.injEq, and_true] at same
          subst same onward
          rw [opens]
          exact kept
    · rw [opens]
      exact law.fresh way type' below (last.below found there fit here) onward

/-- Allocation on the way to a field retains every scalar field, that one included. -/
theorem retains_allocateCells (grounded : s.Grounded) {type : Nat} {trail : List Nat}
    {t : FieldType} (leads : s.shapeAt? type trail = some (.scalar t)) {cells : List Cell}
    (fits : (Cell.record cells).Fits s (.nested type .inline)) {other : List Nat}
    (scalar : s.IsScalar type other) :
    Retains s ⟨type, cells⟩ ⟨type, allocateCells s (s.fields type) trail cells⟩ [trail] other := by
  obtain ⟨t', leads'⟩ := scalar
  cases other with
  | nil => simp [Schema.shapeAt?, Shape.at?] at leads'
  | cons k other =>
  induction type, trail, leads using Schema.scalar_induction generalizing cells k other with
  | last type i name leads found =>
      -- the trail passes no record, so there is none to allocate
      refine ⟨fun _ => rfl, fun way type' below last split => ?_⟩
      obtain ⟨trail, member, passed⟩ := last.allocates.passed
      obtain rfl := List.mem_singleton.mp member
      obtain ⟨j, way, rfl⟩ := List.exists_cons_of_ne_nil last.allocates.ne_nil
      obtain ⟨rfl, ended⟩ := List.cons_prefix_cons.mp passed
      obtain rfl := List.prefix_nil.mp ended
      have optional := last.allocates.optional
      rw [leads] at optional
      cases optional
  | below type i name inner hold rest leads onward found further ih =>
      obtain ⟨cell, there, fit⟩ := fits.cell found
      rw [allocateCells_below found there fit further]
      by_cases same : i = k
      · subst same
        cases other with
        | nil => simp [Schema.shapeAt?_cons, found, Shape.at?] at leads'
        | cons k other =>
            rw [Schema.shapeAt?_below found (by simp)] at leads'
            exact retains_below found there fit (Cell.at?_set_self there _ _)
              (ih (fit.opened grounded .inline) k other leads')
      · exact retains_of_apart same (Cell.at?_set_ne cells same _ _)

/-! ## One field replaced -/

section Put

variable {held old : Held} {trail : List Nat} {cells : List Cell}
  (found : (Cell.record cells).at? trail = some (.scalar old))

include found

/-- The field that was put is what was put. -/
theorem at?_putCell_self :
    (Cell.record (putCell held trail cells)).at? trail = some (.scalar held) := by
  induction trail generalizing cells with
  | nil => cases found
  | cons i rest ih =>
      cases rest with
      | nil => exact Cell.at?_set_self (Cell.at?_singleton cells i ▸ found) _ []
      | cons j rest =>
          obtain ⟨inner, there, onward⟩ := Cell.exists_record_of_at? found (List.cons_ne_nil j rest)
          rw [putCell_below there (List.cons_ne_nil j rest), Cell.at?_set_self there]
          exact ih onward

/-- What is there at a trail that does not lead to the field is there still. -/
theorem at?_putCell {other : List Nat} (apart : ¬ other <+: trail) :
    (Cell.record (putCell held trail cells)).at? other = (Cell.record cells).at? other := by
  cases other with
  | nil => exact absurd List.nil_prefix apart
  | cons k other =>
  induction trail generalizing cells k other with
  | nil => cases found
  | cons i rest ih =>
      cases rest with
      | nil =>
          by_cases same : i = k
          · subst same
            have further : other ≠ [] := by
              rintro rfl
              exact apart List.prefix_rfl
            have placed : (Cell.record (putCell held [i] cells)).at? [i] = some (.scalar held) :=
              at?_putCell_self found
            exact (Cell.at?_past_scalar placed further).trans
              (Cell.at?_past_scalar found further).symm
          · exact Cell.at?_set_ne cells same _ other
      | cons j rest =>
          obtain ⟨inner, there, onward⟩ := Cell.exists_record_of_at? found (List.cons_ne_nil j rest)
          rw [putCell_below there (List.cons_ne_nil j rest)]
          by_cases same : i = k
          · subst same
            rw [Cell.at?_set_self there, Cell.at?_cons there]
            cases other with
            | nil => simp at apart
            | cons k other => exact ih onward k other (by simpa using apart)
          · exact Cell.at?_set_ne cells same _ other

/-- The records that are there are those that were there. -/
theorem present_putCell (way : List Nat) :
    (Cell.record (putCell held trail cells)).Present way ↔ (Cell.record cells).Present way := by
  by_cases through : way <+: trail
  · obtain ⟨rest, rfl⟩ := through
    by_cases ended : rest = []
    · subst ended
      rw [List.append_nil] at found ⊢
      simp only [Cell.Present, at?_putCell_self found, found]
      simp
    · exact iff_of_true (Cell.present_of_at? (at?_putCell_self found) ended)
        (Cell.present_of_at? found ended)
  · simp only [Cell.Present, at?_putCell found through]

end Put

/-! ## One store -/

/-- The record with a scalar field replaced, and the unset records on its way made blank ones. -/
def stored (s : Schema) (r : Record) (trail : List Nat) (held : Held) : Record :=
  { r with cells := putCell held trail (allocateCells s (s.fields r.type) trail r.cells) }

section Store

variable (held : Held) (grounded : s.Grounded) {type : Nat} {trail : List Nat} {t : FieldType}
  (leads : s.shapeAt? type trail = some (.scalar t)) {cells : List Cell}
  (fits : (Cell.record cells).Fits s (.nested type .inline))

include grounded leads fits

/-- Allocation leaves a scalar field to be replaced. -/
theorem exists_at?_allocateCells : ∃ old,
    (Cell.record (allocateCells s (s.fields type) trail cells)).at? trail = some (.scalar old) := by
  obtain ⟨old, -, found, -⟩ := findCell_allocateCells grounded leads fits
  exact ⟨old, findCell_eq_scalar_iff.mp found⟩

/-- The field that was stored is what was stored. -/
theorem at?_stored_self :
    (Cell.record (stored s ⟨type, cells⟩ trail held).cells).at? trail = some (.scalar held) := by
  obtain ⟨old, found⟩ := exists_at?_allocateCells grounded leads fits
  exact at?_putCell_self found

/-- After a store the optional records are there that were there before, and those that the trail
passes. -/
theorem present_stored {way : List Nat} {type' : Nat}
    (optional : s.shapeAt? type way = some (.nested type' .optional)) :
    (Cell.record (stored s ⟨type, cells⟩ trail held).cells).Present way ↔
      (Cell.record cells).Present way ∨ way <+: trail := by
  obtain ⟨old, found⟩ := exists_at?_allocateCells grounded leads fits
  exact (present_putCell found way).trans (present_allocateCells grounded leads fits optional)

/-- **One store retains every other scalar field**, up to the records it allocates. -/
theorem retains_stored {other : List Nat} (scalar : s.IsScalar type other)
    (distinct : other ≠ trail) :
    Retains s ⟨type, cells⟩ (stored s ⟨type, cells⟩ trail held) [trail] other := by
  obtain ⟨old, found⟩ := exists_at?_allocateCells grounded leads fits
  have apart : ¬ other <+: trail := fun passes =>
    distinct (Schema.eq_of_prefix scalar ⟨t, leads⟩ passes)
  have law := retains_allocateCells grounded leads fits scalar
  exact ⟨fun unopened => (at?_putCell found apart).trans (law.kept unopened),
    fun way type' below last split =>
      (at?_putCell found apart).trans (law.fresh way type' below last split)⟩

end Store

/-! ## One store after another -/

/-- Two runs of stores, the first of which brought there what its trails pass. -/
theorem Retains.trans {before mid after : Record} {first second : List (List Nat)}
    {trail : List Nat} (typed : mid.type = before.type)
    (present : ∀ way type, s.shapeAt? before.type way = some (.nested type .optional) →
      ((Cell.record mid.cells).Present way ↔
        (Cell.record before.cells).Present way ∨ ∃ trail ∈ first, way <+: trail))
    (retains : Retains s before mid first trail) (retains' : Retains s mid after second trail) :
    Retains s before after (first ++ second) trail := by
  have earlier {way : List Nat} {type : Nat} (allocates : before.Allocates s first way type) :
      before.Allocates s (first ++ second) way type := by
    obtain ⟨trail', member, passed⟩ := allocates.passed
    exact ⟨allocates.optional, allocates.absent, trail', List.mem_append_left _ member, passed⟩
  have later {way : List Nat} {type : Nat} (allocates : mid.Allocates s second way type) :
      before.Allocates s (first ++ second) way type := by
    obtain ⟨trail', member, passed⟩ := allocates.passed
    have optional := typed ▸ allocates.optional
    exact ⟨optional, fun there => allocates.absent ((present way type optional).mpr (.inl there)),
      trail', List.mem_append_right _ member, passed⟩
  constructor
  · intro unopened
    rw [retains'.kept fun way type allocates => unopened way type (later allocates)]
    exact retains.kept fun way type allocates => unopened way type (earlier allocates)
  · intro way type below last split
    by_cases opened : ∃ trail ∈ first, way <+: trail
    · -- the first run brought the innermost record there: the second allocates nothing on the way
      have allocated : before.Allocates s first way type :=
        ⟨last.allocates.optional, last.allocates.absent, opened⟩
      have untouched : ∀ other type', mid.Allocates s second other type' → ¬ other <+: trail := by
        intro other type' allocates passed
        have short := last.innermost other type' (later allocates) passed
        have shared := List.prefix_of_prefix_length_le passed last.passed short
        obtain ⟨trail', member, through⟩ := opened
        exact allocates.absent ((present other type' (typed ▸ allocates.optional)).mpr
          (.inr ⟨trail', member, shared.trans through⟩))
      rw [retains'.kept untouched]
      exact retains.fresh way type below
        ⟨allocated, last.passed, fun other type' allocates =>
          last.innermost other type' (earlier allocates)⟩ split
    · -- otherwise the second run allocates it, and it is the innermost there too
      obtain ⟨trail', member, through⟩ := last.allocates.passed
      have second_passes : trail' ∈ second := by
        rcases List.mem_append.mp member with member | member
        · exact absurd ⟨trail', member, through⟩ opened
        · exact member
      have allocated : mid.Allocates s second way type := by
        have optional := typed.symm ▸ last.allocates.optional
        refine ⟨optional, fun there => ?_, trail', second_passes, through⟩
        rcases (present way type last.allocates.optional).mp there with there | passes
        · exact last.allocates.absent there
        · exact opened passes
      exact retains'.fresh way type below
        ⟨allocated, last.passed, fun other type' allocates =>
          last.innermost other type' (later allocates)⟩ split

theorem Retains.refl (r : Record) (trail : List Nat) : Retains s r r [] trail :=
  ⟨fun _ => rfl, fun _ _ _ last => by simpa using last.allocates.passed⟩

/-- A scalar field that is there lies behind no record to be allocated. -/
theorem not_allocates_of_at? {r : Record} {trails : List (List Nat)} {trail : List Nat}
    {held : Held} (leads : s.IsScalar r.type trail)
    (there : (Cell.record r.cells).at? trail = some (.scalar held)) {way : List Nat} {type : Nat}
    (allocates : r.Allocates s trails way type) : ¬ way <+: trail := by
  rintro ⟨rest, rfl⟩
  by_cases ended : rest = []
  · obtain ⟨t, leads⟩ := leads
    rw [ended, List.append_nil, allocates.optional] at leads
    cases leads
  · exact allocates.absent (Cell.present_of_at? there ended)

/-! ## Rows -/

/-- Columns are stored behind others if these were all stored. -/
theorem storeAll_append_eq (r : Record) (first second : List (FieldPath × Value × String)) :
    r.storeAll s (first ++ second) =
      match r.storeAll s first with
      | (mid, .ok ()) => mid.storeAll s second
      | (mid, .error e) => (mid, .error e) := by
  induction first generalizing r with
  | nil => rfl
  | cons entry first ih =>
      obtain ⟨path, v, column⟩ := entry
      simp only [List.cons_append, storeAll]
      split
      · exact ih _
      · rfl

theorem storeAll_append {r after : Record} {first second : List (FieldPath × Value × String)} :
    r.storeAll s (first ++ second) = (after, .ok ()) ↔
      ∃ mid, r.storeAll s first = (mid, .ok ()) ∧ mid.storeAll s second = (after, .ok ()) := by
  rw [storeAll_append_eq]
  split
  · next mid stored => simp [stored]
  · next mid e refused => simp [refused]

/-- Columns stored at scalar fields leave an instance, and retain every scalar field that none of
them is stored at. -/
theorem storeAll_retains (grounded : s.Grounded) {r after : Record} (made : r.IsInstance s)
    {entries : List (FieldPath × Value × String)}
    (scalar : ∀ entry ∈ entries, s.IsScalar r.type entry.1.indices)
    (ok : r.storeAll s entries = (after, .ok ())) :
    after.IsInstance s ∧ after.type = r.type ∧
      ∀ other, s.IsScalar r.type other → (∀ entry ∈ entries, other ≠ entry.1.indices) →
        Retains s r after (entries.map (·.1.indices)) other := by
  induction entries generalizing r with
  | nil =>
      obtain rfl : r = after := by simpa [storeAll] using ok
      exact ⟨made, rfl, fun other _ _ => .refl r other⟩
  | cons entry entries ih =>
      obtain ⟨path, v, column⟩ := entry
      have first : s.IsScalar r.type path.indices := scalar _ List.mem_cons_self
      simp only [storeAll] at ok
      split at ok
      · next mid put =>
          obtain ⟨t, content, leads, -, rfl, made', same⟩ := store_eq_ok grounded made first put
          obtain ⟨made'', same', law⟩ :=
            ih made' (fun entry member => same ▸ scalar entry (List.mem_cons_of_mem _ member)) ok
          refine ⟨made'', same'.trans same, fun other leads' distinct => ?_⟩
          have step := retains_stored ⟨t, content⟩ grounded leads made leads'
            (distinct _ List.mem_cons_self)
          refine step.trans same (fun way type optional => ?_)
            (law other (same ▸ leads') fun entry member => distinct entry (.tail _ member))
          simp only [List.mem_singleton, exists_eq_left]
          exact present_stored ⟨t, content⟩ grounded leads made optional
      · simp at ok

/-- The field of the last of the columns stored at one path holds that column's converted value. -/
theorem storeAll_last (grounded : s.Grounded) {r after : Record} (made : r.IsInstance s)
    {earlier later : List (FieldPath × Value × String)} {path : FieldPath} {v : Value}
    {column : String} (scalar : ∀ entry ∈ earlier ++ (path, v, column) :: later,
      s.IsScalar r.type entry.1.indices)
    (last : ∀ entry ∈ later, path.indices ≠ entry.1.indices)
    (ok : r.storeAll s (earlier ++ (path, v, column) :: later) = (after, .ok ())) :
    ∃ t content, s.shapeAt? r.type path.indices = some (.scalar t) ∧ t.ofValue v = .ok content ∧
      (Cell.record after.cells).at? path.indices = some (.scalar ⟨t, content⟩) := by
  obtain ⟨before, first, ok⟩ := storeAll_append.mp ok
  obtain ⟨made', same, -⟩ := storeAll_retains grounded made
    (fun entry member => scalar entry (List.mem_append_left _ member)) first
  have here : s.IsScalar before.type path.indices :=
    same ▸ scalar _ (List.mem_append_right _ List.mem_cons_self)
  simp only [storeAll] at ok
  split at ok
  · next mid put =>
      obtain ⟨t, content, leads, converted, rfl, made'', same'⟩ :=
        store_eq_ok grounded made' here put
      have holds := at?_stored_self ⟨t, content⟩ grounded leads made'
      obtain ⟨-, -, law⟩ := storeAll_retains grounded made'' (fun entry member => by
        rw [same', same]
        exact scalar entry (List.mem_append_right _ (List.mem_cons_of_mem _ member))) ok
      have kept := (law path.indices (same' ▸ here) last).kept fun way type allocates =>
        not_allocates_of_at? (same' ▸ here) holds allocates
      exact ⟨t, content, same ▸ leads, converted, kept.trans holds⟩
  · simp at ok

/-! ## Fields read back -/

/-- Reading a scalar field gives what its cell holds, and nothing if the cell is not there. -/
theorem field_eq (grounded : s.Grounded) {r : Record} (made : r.IsInstance s) {path : FieldPath}
    (scalar : s.IsScalar r.type path.indices) :
    r.field path = .ok (((Cell.record r.cells).at? path.indices).bind Cell.held?) := by
  obtain ⟨t, leads⟩ := scalar
  obtain ⟨held, -, -, unset, reads⟩ := findCell_allocateCells grounded leads made
  by_cases interrupted : (Cell.record r.cells).Interrupts path.indices
  · have nothing : ((Cell.record r.cells).at? path.indices).bind Cell.held? = none := by
      rw [Option.bind_eq_none_iff]
      intro cell there
      cases cell with
      | scalar other =>
          have found := findCell_eq_scalar_iff.mpr there
          rw [unset interrupted] at found
          cases found
      | record cells => rfl
      | unset => rfl
    simp only [field, find, unset interrupted, nothing]
  · simp only [field, find, reads interrupted, findCell_eq_scalar_iff.mp (reads interrupted)]
    rfl

/-- What reading a scalar field gives after stores at the trails of other fields: what it gave
before, or what a blank record gives if the field lies behind one that was allocated. -/
structure Keeps (s : Schema) (before after : Record) (trails : List (List Nat))
    (path : FieldPath) : Prop where
  kept : (∀ way type, before.Allocates s trails way type → ¬ way <+: path.indices) →
    after.field path = before.field path
  fresh : ∀ way type rest, before.AllocatesLast s trails path.indices way type →
    path.indices = way ++ rest → ∃ below, FieldPath.ofIndices rest = .ok below ∧
      after.field path = (blank s type).field below

theorem Retains.keeps (grounded : s.Grounded) {before after : Record}
    (made : before.IsInstance s) (made' : after.IsInstance s) (typed : after.type = before.type)
    {trails : List (List Nat)} {path : FieldPath} (scalar : s.IsScalar before.type path.indices)
    (law : Retains s before after trails path.indices) : Keeps s before after trails path := by
  have reads := field_eq grounded made' (typed.symm ▸ scalar)
  constructor
  · intro unopened
    rw [reads, law.kept unopened, field_eq grounded made scalar]
  · intro way type rest last split
    obtain ⟨t, leads⟩ := scalar
    rw [split, Schema.shapeAt?_append last.allocates.optional] at leads
    have further : rest ≠ [] := by
      rintro rfl
      simp [Shape.at?] at leads
    obtain ⟨below, packed⟩ :=
      FieldPath.exists_ofIndices_of_append split last.allocates.ne_nil further
    have same := FieldPath.indices_ofIndices packed
    obtain ⟨i, rest, rfl⟩ := List.exists_cons_of_ne_nil further
    have blank_scalar : s.IsScalar type below.indices := ⟨t, by rw [same]; exact leads⟩
    have blank_reads := field_eq grounded (isInstance_blank grounded type) blank_scalar
    rw [same] at blank_reads
    exact ⟨below, packed, by rw [reads, law.fresh way type _ last split, blank_reads]; rfl⟩

/-- The position of the last path of a mapping that leads along a trail. -/
structure LastAt (mapping : List FieldPath) (trail : List Nat) (j : Nat) : Prop where
  maps : ∃ path, mapping[j]? = some path ∧ path.indices = trail
  last : ∀ k path, j < k → mapping[k]? = some path → trail ≠ path.indices

theorem exists_lastAt {mapping : List FieldPath} {trail : List Nat}
    (mapped : ∃ path ∈ mapping, path.indices = trail) : ∃ j, LastAt mapping trail j := by
  induction mapping with
  | nil => simp at mapped
  | cons first mapping ih =>
      by_cases again : ∃ path ∈ mapping, path.indices = trail
      · obtain ⟨j, maps, last⟩ := ih again
        refine ⟨j + 1, by simpa using maps, fun k path after found => ?_⟩
        obtain ⟨k, rfl⟩ := Nat.exists_eq_add_of_lt after
        exact last (j + k + 1) path (by omega) (by simpa [Nat.add_right_comm] using found)
      · obtain ⟨path, member, same⟩ := mapped
        rcases List.mem_cons.mp member with rfl | member
        · refine ⟨0, ⟨path, rfl, same⟩, fun k other after found distinct => again ?_⟩
          obtain ⟨k, rfl⟩ := Nat.exists_eq_succ_of_ne_zero after.ne'
          exact ⟨other, List.mem_of_getElem? (by simpa using found), distinct.symm⟩
        · exact absurd ⟨path, member, same⟩ again

/-- The column of a row that a scalar field reads back as: the last one stored at its path, in the
form that the field gives it. -/
def ReadsBack (s : Schema) (type : Nat) (mapping : List FieldPath) (row : Row) (path : FieldPath)
    (read : Value) : Prop :=
  ∃ j v t content, LastAt mapping path.indices j ∧ row.values[j]? = some v ∧
    s.shapeAt? type path.indices = some (.scalar t) ∧ t.ofValue v = .ok content ∧
    read = t.toValue content

/-- The columns of a row with the paths they are stored at. -/
def entries (mapping : List FieldPath) (row : Row) : List (FieldPath × Value × String) :=
  mapping.zip (row.values.zip row.columns)

theorem getElem?_entries {mapping : List FieldPath} {row : Row} {j : Nat} {path : FieldPath}
    {v : Value} {column : String} : (entries mapping row)[j]? = some (path, v, column) ↔
      mapping[j]? = some path ∧ row.values[j]? = some v ∧ row.columns[j]? = some column := by
  rw [entries, List.getElem?_zip_eq_some, List.getElem?_zip_eq_some]

theorem isScalar_entries {type : Nat} {mapping : List FieldPath}
    (scalar : ∀ path ∈ mapping, s.IsScalar type path.indices) (row : Row) :
    ∀ entry ∈ entries mapping row, s.IsScalar type entry.1.indices := fun _ member =>
  scalar _ (List.of_mem_zip member).1

section Row

variable {mapping : List FieldPath} {row : Row} (aligned : row.IsAligned)
  (width : mapping.length = row.size)

include aligned width

theorem trails_entries : (entries mapping row).map (·.1.indices) = mapping.map (·.indices) := by
  have all : mapping.length ≤ (row.values.zip row.columns).length := by
    have columns : row.columns.length = row.values.length := aligned
    simp only [List.length_zip, columns, Nat.min_self]
    exact width.le
  calc (entries mapping row).map (·.1.indices)
      = ((entries mapping row).map Prod.fst).map (·.indices) := by simp
    _ = mapping.map (·.indices) := by rw [entries, List.map_fst_zip all]

/-- The columns before and after one of the row's columns. -/
theorem entries_split {j : Nat} {path : FieldPath} (found : mapping[j]? = some path) :
    ∃ v column, row.values[j]? = some v ∧ entries mapping row =
      (entries mapping row).take j ++ (path, v, column) :: (entries mapping row).drop (j + 1) := by
  have inside : j < row.values.length := by
    have inside := (List.getElem?_eq_some_iff.mp found).1
    rwa [width] at inside
  have inside' : j < row.columns.length := by rwa [aligned]
  have entry : (entries mapping row)[j]? = some (path, row.values[j], row.columns[j]) :=
    getElem?_entries.mpr
      ⟨found, List.getElem?_eq_getElem inside, List.getElem?_eq_getElem inside'⟩
  exact ⟨row.values[j], row.columns[j], List.getElem?_eq_getElem inside,
    List.eq_take_append_cons_drop entry⟩

end Row

section Laws

variable {r after : Record} (grounded : s.Grounded) (made : r.IsInstance s)

include grounded made

theorem value_store {path : FieldPath} {v : Value} (scalar : s.IsScalar r.type path.indices)
    (ok : r.store s path v = (after, .ok ())) :
    ∃ t content, s.shapeAt? r.type path.indices = some (.scalar t) ∧
      t.ofValue v = .ok content ∧ after.value path = .ok (t.toValue content) := by
  obtain ⟨t, content, leads, converted, rfl, made', same⟩ := store_eq_ok grounded made scalar ok
  have holds := at?_stored_self ⟨t, content⟩ grounded leads made
  have reads := field_eq grounded made' (same.symm ▸ scalar)
  refine ⟨t, content, leads, converted, ?_⟩
  rw [value, reads]
  exact congrArg (fun cell : Option Cell => (Except.ok (cell.bind Cell.held?)).map _) holds

theorem keeps_store {path : FieldPath} {v : Value} (scalar : s.IsScalar r.type path.indices)
    (ok : r.store s path v = (after, .ok ())) {other : FieldPath}
    (scalar' : s.IsScalar r.type other.indices) (distinct : other.indices ≠ path.indices) :
    Keeps s r after [path.indices] other := by
  obtain ⟨t, content, leads, -, rfl, made', same⟩ := store_eq_ok grounded made scalar ok
  have retains := retains_stored ⟨t, content⟩ grounded leads made scalar' distinct
  exact retains.keeps grounded made made' same scalar'

variable {mapping : List FieldPath} {row : Row}
  (scalar : ∀ path ∈ mapping, s.IsScalar r.type path.indices) (aligned : row.IsAligned)
  (width : mapping.length = row.size)
  (ok : r.storeAll s (entries mapping row) = (after, .ok ()))

include scalar aligned width ok

/-- Every mapped field reads back as the last column of the row that is mapped to it. -/
theorem value_row {path : FieldPath} (member : path ∈ mapping) :
    ∃ read, after.value path = .ok read ∧ ReadsBack s r.type mapping row path read := by
  obtain ⟨j, last⟩ := exists_lastAt ⟨path, member, rfl⟩
  obtain ⟨final, found, same⟩ := last.maps
  obtain ⟨v, column, read, split⟩ := entries_split aligned width found
  have later : ∀ entry ∈ (entries mapping row).drop (j + 1), final.indices ≠ entry.1.indices := by
    intro entry member
    obtain ⟨k, place⟩ := List.mem_iff_getElem?.mp member
    rw [List.getElem?_drop] at place
    rw [same]
    exact last.last _ entry.1 (by omega) (List.getElem?_zip_eq_some.mp place).1
  have listed := isScalar_entries scalar row
  obtain ⟨made', typed, -⟩ := storeAll_retains grounded made listed ok
  rw [split] at ok listed
  obtain ⟨t, content, leads, converted, holds⟩ := storeAll_last grounded made listed later ok
  rw [same] at leads holds
  have scalar' : s.IsScalar after.type path.indices := typed.symm ▸ ⟨t, leads⟩
  have reads := field_eq grounded made' scalar'
  rw [holds] at reads
  exact ⟨t.toValue content, by rw [value, reads]; rfl,
    j, v, t, content, last, read, leads, converted, rfl⟩

theorem keeps_row {other : FieldPath} (scalar' : s.IsScalar r.type other.indices)
    (distinct : ∀ path ∈ mapping, other.indices ≠ path.indices) :
    Keeps s r after (mapping.map (·.indices)) other := by
  obtain ⟨made', same, law⟩ :=
    storeAll_retains grounded made (isScalar_entries scalar row) ok
  have retains := law other.indices scalar' fun entry member =>
    distinct _ (List.of_mem_zip member).1
  rw [trails_entries aligned width] at retains
  exact retains.keeps grounded made made' same scalar'

end Laws

/-- **Write/read laws of binding.** A store that succeeds is read back in the field's own form and
keeps every other scalar field, except that a field behind an optional record that had to be
allocated reads as in a blank instance of the innermost such record. So after a row was stored,
each column of the mapping reads back as the last column stored at the same path, and the scalar
fields outside the mapping are kept in the same way. -/
theorem write_read_laws (grounded : s.Grounded) {r : Record} (made : r.IsInstance s) :
    (∀ path v after, s.IsScalar r.type path.indices → r.store s path v = (after, .ok ()) →
      (∃ t content, s.shapeAt? r.type path.indices = some (.scalar t) ∧
        t.ofValue v = .ok content ∧ after.value path = .ok (t.toValue content)) ∧
      ∀ other, s.IsScalar r.type other.indices → other.indices ≠ path.indices →
        Keeps s r after [path.indices] other) ∧
    ∀ mapping row after, (∀ path ∈ mapping, s.IsScalar r.type path.indices) → row.IsAligned →
      r.scan s mapping row = (after, .ok ()) →
      (∃ reads, after.values mapping = .ok reads ∧
        List.Forall₂ (ReadsBack s r.type mapping row) mapping reads) ∧
      ∀ other, s.IsScalar r.type other.indices →
        (∀ path ∈ mapping, other.indices ≠ path.indices) →
        Keeps s r after (mapping.map (·.indices)) other := by
  constructor
  · intro path v after scalar ok
    exact ⟨value_store grounded made scalar ok, fun other => keeps_store grounded made scalar ok⟩
  · intro mapping row after scalar aligned ok
    rw [scan] at ok
    split at ok
    · next width =>
        refine ⟨?_, fun other => keeps_row grounded made scalar aligned width ok⟩
        obtain ⟨reads, both⟩ := List.exists_forall₂ fun path member =>
          value_row grounded made scalar aligned width ok member
        exact ⟨reads, List.mapM_eq_ok_iff.mpr (both.imp fun _ _ read => read.1),
          both.imp fun _ _ read => read.2⟩
    · cases congrArg Prod.snd ok

/-- A boss stored twice, and the home of the boss's boss in between. -/
theorem staff_write_read :
    let path trail := FieldPath.mk (UInt64.ofNat (FieldPath.pack 8 trail))
    let mapping := [[3, 0], [3, 3, 2, 0], [3, 0]].map path
    let row : Row := ⟨["boss.id", "boss.boss.home.city", "boss.id"], [.int 1, .text "Oslo", .int 2]⟩
    ∃ after, (blank .staff 0).scan .staff mapping row = (after, .ok ()) ∧
      (∃ reads, after.values mapping = .ok reads ∧
        List.Forall₂ (ReadsBack .staff 0 mapping row) mapping reads) ∧
      Keeps .staff (blank .staff 0) after (mapping.map (·.indices)) (path [3, 3, 0]) := by
  intro path mapping row
  have made := isInstance_blank Schema.staff_grounded 0
  have scalar : ∀ path ∈ mapping, Schema.staff.IsScalar 0 path.indices := by
    intro path member
    simp only [mapping, List.map_cons, List.map_nil, List.mem_cons, List.not_mem_nil, or_false]
      at member
    rcases member with rfl | rfl | rfl
    · exact ⟨.required .int64, by decide⟩
    · exact ⟨.optional .text, by decide⟩
    · exact ⟨.required .int64, by decide⟩
  have ok : (blank .staff 0).scan .staff mapping row =
      (((blank .staff 0).scan .staff mapping row).1, .ok ()) :=
    Prod.ext rfl (by decide)
  obtain ⟨reads, keeps⟩ :=
    (write_read_laws Schema.staff_grounded made).2 mapping row _ scalar rfl ok
  exact ⟨_, ok, reads, keeps (path [3, 3, 0]) ⟨.required .int64, by decide⟩ (by decide)⟩

end Record

end QueryBind
