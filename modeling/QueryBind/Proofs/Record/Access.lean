/-
# QueryBind.Proofs.Record.Access — a compiled mapping always applies

A trail that leads to a scalar field of a type is followed in an instance of the type. Each step
down goes into `Cell.opened`: the record that is there, or the blank one that allocation puts in
its place. So looking up after allocation always ends at the scalar field, looking up without it
ends there unless an optional record on the way is unset, and storing can only fail because the
field refuses the value.
-/
import QueryBind.Proofs.Record.Leaves
import QueryBind.Record.Scan

namespace QueryBind

set_option autoImplicit false

namespace Cell

theorem getElem?_set_of_some {cells : List Cell} {i : Nat} {cell : Cell}
    (there : cells[i]? = some cell) (new : Cell) : (cells.set i new)[i]? = some new :=
  List.getElem?_set_self (List.getElem?_eq_some_iff.mp there).1

theorem set_of_some {cells : List Cell} {i : Nat} {cell : Cell} (there : cells[i]? = some cell) :
    cells.set i cell = cells := by
  obtain ⟨inside, rfl⟩ := List.getElem?_eq_some_iff.mp there
  exact List.set_getElem_self inside

theorem interrupts_unset (trail : List Nat) : Cell.unset.Interrupts trail :=
  ⟨[], List.nil_prefix, rfl⟩

theorem not_interrupts_scalar {held : Held} {trail : List Nat} :
    ¬ (Cell.scalar held).Interrupts trail := by
  rintro ⟨way, -, unset⟩
  cases way <;> simp [at?] at unset

theorem interrupts_record_cons {cells : List Cell} {i : Nat} {cell : Cell} {rest : List Nat}
    (there : cells[i]? = some cell) :
    (Cell.record cells).Interrupts (i :: rest) ↔ cell.Interrupts rest := by
  constructor
  · rintro ⟨way, passed, unset⟩
    cases way with
    | nil => simp [at?] at unset
    | cons k way =>
        obtain ⟨rfl, onward⟩ := List.cons_prefix_cons.mp passed
        exact ⟨way, onward, by simpa [at?, there] using unset⟩
  · rintro ⟨way, passed, unset⟩
    exact ⟨i :: way, List.cons_prefix_cons.mpr ⟨rfl, passed⟩, by simpa [at?, there] using unset⟩

end Cell

namespace Record

variable {s : Schema}

/-! ## One step down -/

theorem findCell_below {cells inner : List Cell} {i : Nat} {rest : List Nat}
    (there : cells[i]? = some (.record inner)) (further : rest ≠ []) :
    findCell (i :: rest) cells = findCell rest inner := by
  obtain ⟨j, rest, rfl⟩ := List.exists_cons_of_ne_nil further
  simp only [findCell, there]

theorem findCell_unset {cells : List Cell} {i : Nat} {rest : List Nat}
    (there : cells[i]? = some .unset) (further : rest ≠ []) :
    findCell (i :: rest) cells = .unset := by
  obtain ⟨j, rest, rfl⟩ := List.exists_cons_of_ne_nil further
  simp only [findCell, there]

theorem putCell_below {held : Held} {cells inner : List Cell} {i : Nat} {rest : List Nat}
    (there : cells[i]? = some (.record inner)) (further : rest ≠ []) :
    putCell held (i :: rest) cells = cells.set i (.record (putCell held rest inner)) := by
  obtain ⟨j, rest, rfl⟩ := List.exists_cons_of_ne_nil further
  simp [putCell, List.modify_eq_set, there]

theorem allocateCells_below {type i inner : Nat} {name : String} {hold : Hold} {cells : List Cell}
    {cell : Cell} {rest : List Nat} (found : (s.fields type)[i]? = some ⟨name, .nested inner hold⟩)
    (there : cells[i]? = some cell) (fit : cell.Fits s (.nested inner hold)) (further : rest ≠ []) :
    allocateCells s (s.fields type) (i :: rest) cells =
      cells.set i (.record (allocateCells s (s.fields inner) rest (cell.opened s inner))) := by
  obtain ⟨j, rest, rfl⟩ := List.exists_cons_of_ne_nil further
  simp only [allocateCells, found, List.modify_eq_set, there]
  cases fit <;> rfl

/-- Looking up finds exactly the scalar cell that the trail leads to. -/
theorem findCell_eq_scalar_iff {trail : List Nat} {cells : List Cell} {held : Held} :
    findCell trail cells = .scalar held ↔
      (Cell.record cells).at? trail = some (.scalar held) := by
  induction trail generalizing cells with
  | nil => simp [findCell, Cell.at?]
  | cons i rest ih =>
      cases there : cells[i]? with
      | none => cases rest <;> simp [findCell, Cell.at?, there]
      | some cell =>
          cases rest with
          | nil => cases cell <;> simp [findCell, Cell.at?, there]
          | cons j rest =>
              cases cell with
              | record inner => simp only [findCell, Cell.at?, there]; exact ih
              | scalar other => simp [findCell, Cell.at?, there]
              | unset => simp [findCell, Cell.at?, there]

/-! ## Allocated and found -/

/-- Allocation leaves an instance of the type, also along a trail that leads nowhere. -/
theorem fits_allocateCells (grounded : s.Grounded) {type : Nat} (trail : List Nat)
    {cells : List Cell} (fits : (Cell.record cells).Fits s (.nested type .inline)) :
    (Cell.record (allocateCells s (s.fields type) trail cells)).Fits s (.nested type .inline) := by
  induction trail generalizing type cells with
  | nil => exact fits
  | cons i rest ih =>
      cases rest with
      | nil => exact fits
      | cons j rest =>
          cases found : (s.fields type)[i]? with
          | none => simpa only [allocateCells, found] using fits
          | some field =>
              obtain ⟨name, shape⟩ := field
              cases shape with
              | scalar t => simpa only [allocateCells, found] using fits
              | nested inner hold =>
                  obtain ⟨cell, there, fit⟩ := fits.cell found
                  rw [allocateCells_below found there fit (List.cons_ne_nil j rest)]
                  exact fits.set found ((ih (fit.opened grounded .inline)).rehold hold) .inline

/-- Looking up after allocation ends at the scalar field; looking up without it ends there too,
unless an optional record on the way is unset. -/
theorem findCell_allocateCells (grounded : s.Grounded) {type : Nat} {trail : List Nat}
    {t : FieldType} (leads : s.shapeAt? type trail = some (.scalar t)) {cells : List Cell}
    (fits : (Cell.record cells).Fits s (.nested type .inline)) :
    ∃ held, held.type = t ∧
      findCell trail (allocateCells s (s.fields type) trail cells) = .scalar held ∧
      ((Cell.record cells).Interrupts trail → findCell trail cells = .unset) ∧
      (¬ (Cell.record cells).Interrupts trail → findCell trail cells = .scalar held) := by
  induction type, trail, leads using Schema.scalar_induction generalizing cells with
  | last type i name leads found =>
      obtain ⟨cell, there, fit⟩ := fits.cell found
      rcases fit with ⟨held⟩
      have ends : findCell [i] cells = .scalar held := by simp only [findCell, there]
      refine ⟨held, rfl, ends, fun interrupted => ?_, fun _ => ends⟩
      exact absurd ((Cell.interrupts_record_cons there).mp interrupted) Cell.not_interrupts_scalar
  | below type i name inner hold rest leads onward found further ih =>
      obtain ⟨cell, there, fit⟩ := fits.cell found
      obtain ⟨held, typed, ends, interrupted, reached⟩ := ih (fit.opened grounded .inline)
      refine ⟨held, typed, ?_, ?_⟩
      · rw [allocateCells_below found there fit further,
          findCell_below (Cell.getElem?_set_of_some there _) further]
        exact ends
      · rw [Cell.interrupts_record_cons there]
        cases fit with
        | unset =>
            exact ⟨fun _ => findCell_unset there further,
              fun clear => absurd (Cell.interrupts_unset rest) clear⟩
        | record width each =>
            rw [findCell_below there further]
            exact ⟨interrupted, reached⟩

/-! ## Stored -/

/-- Storing into a field of the record itself. -/
theorem putCell_allocateCells_last (held : Held) (fields : List Field) (i : Nat)
    (cells : List Cell) :
    putCell held [i] (allocateCells s fields [i] cells) = cells.set i (.scalar held) := rfl

/-- Storing below a nested record stores into the record that allocation opens. -/
theorem putCell_allocateCells_below (held : Held) {type i inner : Nat} {name : String} {hold : Hold}
    {cells : List Cell} {cell : Cell} {rest : List Nat}
    (found : (s.fields type)[i]? = some ⟨name, .nested inner hold⟩) (there : cells[i]? = some cell)
    (fit : cell.Fits s (.nested inner hold)) (further : rest ≠ []) :
    putCell held (i :: rest) (allocateCells s (s.fields type) (i :: rest) cells) =
      cells.set i (.record (putCell held rest
        (allocateCells s (s.fields inner) rest (cell.opened s inner)))) := by
  rw [allocateCells_below found there fit further,
    putCell_below (Cell.getElem?_set_of_some there _) further, List.set_set]

/-- Storing content of the field's type leaves an instance of the record's type. -/
theorem fits_putCell_allocateCells (grounded : s.Grounded) {type : Nat} {trail : List Nat}
    (held : Held) (leads : s.shapeAt? type trail = some (.scalar held.type)) {cells : List Cell}
    (fits : (Cell.record cells).Fits s (.nested type .inline)) :
    (Cell.record (putCell held trail (allocateCells s (s.fields type) trail cells))).Fits s
      (.nested type .inline) := by
  induction type, trail, leads using Schema.scalar_induction generalizing cells with
  | last type i name leads found =>
      rw [putCell_allocateCells_last]
      exact fits.set found (.scalar held) .inline
  | below type i name inner hold rest leads onward found further ih =>
      obtain ⟨cell, there, fit⟩ := fits.cell found
      rw [putCell_allocateCells_below held found there fit further]
      exact fits.set found ((ih (fit.opened grounded .inline)).rehold hold) .inline

theorem isInstance_allocate (grounded : s.Grounded) {r : Record} (made : r.IsInstance s)
    (path : FieldPath) : (r.allocate s path).IsInstance s :=
  fits_allocateCells grounded path.indices made

/-- Storing converts the value for the field that the path leads to. -/
theorem store_of_find {r : Record} {path : FieldPath} {held : Held}
    (found : (r.allocate s path).find path = .scalar held) (v : Value) : r.store s path v =
    match held.type.ofValue v with
    | .ok content => ((r.allocate s path).put path ⟨held.type, content⟩, .ok ())
    | .error cause => (r.allocate s path, .error (.conversion cause)) := by
  simp only [store, found, Held.store]
  cases held.type.ofValue v <;> rfl

section Instance

variable {r : Record} (grounded : s.Grounded) (made : r.IsInstance s) {path : FieldPath}
  {t : FieldType} (leads : s.shapeAt? r.type path.indices = some (.scalar t))

include grounded made leads

/-- The field that a path leads to, for storing and for reading. -/
theorem find_allocate : ∃ held, held.type = t ∧ (r.allocate s path).find path = .scalar held ∧
    ((Cell.record r.cells).Interrupts path.indices → r.field path = .ok none) ∧
    (¬ (Cell.record r.cells).Interrupts path.indices → r.field path = .ok (some held)) := by
  obtain ⟨held, typed, ends, interrupted, reached⟩ := findCell_allocateCells grounded leads made
  refine ⟨held, typed, ends, fun unset => ?_, fun clear => ?_⟩
  · simp only [field, find, interrupted unset]
  · simp only [field, find, reached clear]

/-- Only the conversion of the value can refuse it. -/
theorem store_eq (v : Value) : r.store s path v =
    match t.ofValue v with
    | .ok content => ((r.allocate s path).put path ⟨t, content⟩, .ok ())
    | .error cause => (r.allocate s path, .error (.conversion cause)) := by
  obtain ⟨held, rfl, ends, -⟩ := find_allocate grounded made leads
  rw [store_of_find ends]
  cases held.type.ofValue v <;> rfl

theorem isInstance_put (content : t.Content) :
    ((r.allocate s path).put path ⟨t, content⟩).IsInstance s :=
  fits_putCell_allocateCells grounded ⟨t, content⟩ leads made

end Instance

/-- A successful store put the converted value into the field. -/
theorem store_eq_ok (grounded : s.Grounded) {r after : Record} (made : r.IsInstance s)
    {path : FieldPath} (scalar : s.IsScalar r.type path.indices) {v : Value}
    (ok : r.store s path v = (after, .ok ())) :
    ∃ t content, s.shapeAt? r.type path.indices = some (.scalar t) ∧ t.ofValue v = .ok content ∧
      after = (r.allocate s path).put path ⟨t, content⟩ ∧ after.IsInstance s ∧
      after.type = r.type := by
  obtain ⟨t, leads⟩ := scalar
  rw [store_eq grounded made leads] at ok
  cases converted : t.ofValue v with
  | error cause => simp [converted] at ok
  | ok content =>
      obtain rfl : (r.allocate s path).put path ⟨t, content⟩ = after := by
        simpa [converted] using ok
      exact ⟨t, content, leads, converted, rfl, isInstance_put grounded made leads content, rfl⟩

/-! ## Rows -/

/-- Columns stored at scalar fields can only fail by their conversion. -/
theorem storeAll_error (grounded : s.Grounded) {r : Record} (made : r.IsInstance s)
    {entries : List (FieldPath × Value × String)}
    (scalar : ∀ entry ∈ entries, s.IsScalar r.type entry.1.indices) {error : Error}
    (failed : (r.storeAll s entries).2 = .error error) :
    ∃ entry ∈ entries, ∃ cause, error = .decode entry.2.2 (.conversion cause) := by
  induction entries generalizing r with
  | nil => simp [storeAll] at failed
  | cons entry entries ih =>
      obtain ⟨path, v, column⟩ := entry
      have first : s.IsScalar r.type path.indices := scalar _ List.mem_cons_self
      simp only [storeAll] at failed
      split at failed
      · next mid stored =>
          obtain ⟨_, _, _, _, -, made', same⟩ := store_eq_ok grounded made first stored
          have scalar' : ∀ entry ∈ entries, s.IsScalar mid.type entry.1.indices :=
            fun entry member => same ▸ scalar entry (List.mem_cons_of_mem _ member)
          obtain ⟨entry, member, cause, named⟩ := ih made' scalar' failed
          exact ⟨entry, List.mem_cons_of_mem _ member, cause, named⟩
      · next mid e refused =>
          obtain ⟨t, leads⟩ := first
          obtain rfl : columnError column e = error := by simpa using failed
          rw [store_eq grounded made leads] at refused
          cases converted : t.ofValue v with
          | ok content => simp [converted] at refused
          | error cause =>
              simp only [converted, Prod.mk.injEq, Except.error.injEq] at refused
              obtain ⟨-, rfl⟩ := refused
              exact ⟨_, List.mem_cons_self, cause, rfl⟩

/-! ## Columns -/

/-- The path of a column leads to the scalar field that the column stands for: storing finds it,
and so does reading, unless an optional record on the way is unset. -/
structure Applies (s : Schema) (r : Record) (column : String) (path : FieldPath) (leaf : Leaf)
    (held : Held) : Prop where
  resolved : Schema.resolve? (s.leaves r.type) column = some leaf
  trail : path.indices = leaf.trail
  name : leaf.name = Leaf.dotted (s.names r.type leaf.trail)
  leads : s.shapeAt? r.type leaf.trail = some (.scalar held.type)
  cell : (Cell.record (r.allocate s path).cells).at? leaf.trail = some (.scalar held)
  stores : (r.allocate s path).find path = .scalar held
  unset : (Cell.record r.cells).Interrupts leaf.trail → r.field path = .ok none
  reads : ¬ (Cell.record r.cells).Interrupts leaf.trail → r.field path = .ok (some held)

theorem exists_applies (grounded : s.Grounded) {r : Record} (made : r.IsInstance s)
    {column : String} {path : FieldPath} {leaf : Leaf}
    (resolved : Schema.resolve? (s.leaves r.type) column = some leaf)
    (trail : path.indices = leaf.trail) : ∃ held, r.Applies s column path leaf held := by
  obtain ⟨t, leads, name⟩ := Schema.mem_leaves (Schema.mem_of_resolve? resolved)
  rw [← trail] at leads
  obtain ⟨held, rfl, stores, unset, reads⟩ := find_allocate grounded made leads
  rw [trail] at unset reads leads
  have cell := findCell_eq_scalar_iff.mp stores
  rw [trail] at cell
  exact ⟨held, resolved, trail, name, leads, cell, stores, unset, reads⟩

/-- **A compiled mapping always applies.** In every instance of the type, whichever of its optional
records are there, each path is the one of the field its column stands for, and a row of the
mapping's width can only fail by the conversion of a column. -/
theorem compiled_mapping_applies (grounded : s.Grounded) {columns : List String}
    {paths : List FieldPath} {r : Record} (made : r.IsInstance s)
    (compiled : s.mapping r.type columns = .ok paths) :
    List.Forall₂ (fun column path => ∃ leaf held, r.Applies s column path leaf held)
      columns paths ∧
    ∀ row error, row.size = paths.length → (r.scan s paths row).2 = .error error →
      ∃ column ∈ row.columns, ∃ cause, error = .decode column (.conversion cause) := by
  have applies : List.Forall₂ (fun column path => ∃ leaf held, r.Applies s column path leaf held)
      columns paths :=
    (Schema.mapping_eq_ok compiled).imp fun column path ⟨leaf, resolved, trail⟩ =>
      ⟨leaf, exists_applies grounded made resolved trail⟩
  refine ⟨applies, fun row error width failed => ?_⟩
  have scalar := Schema.isScalar_of_mapping compiled
  rw [scan, if_pos width.symm] at failed
  obtain ⟨⟨path, v, column⟩, member, cause, named⟩ := storeAll_error grounded made
    (fun entry member => scalar _ (List.of_mem_zip member).1) failed
  exact ⟨column, (List.of_mem_zip (List.of_mem_zip member).2).2, cause, named⟩

/-- A blank employee with a blank boss. -/
def bossed : Record := (blank .staff 0).allocate .staff ⟨UInt64.ofNat (FieldPath.pack 8 [3, 0])⟩

theorem bossed_isInstance : bossed.IsInstance .staff :=
  isInstance_allocate Schema.staff_grounded (isInstance_blank Schema.staff_grounded 0) _

theorem staff_mapping_applies :
    let columns := ["code", "boss.id", "boss.boss.home.city"]
    let paths := [[1, 0], [3, 0], [3, 3, 2, 0]].map fun trail =>
      FieldPath.mk (UInt64.ofNat (FieldPath.pack 8 trail))
    Schema.staff.mapping bossed.type columns = .ok paths ∧
      List.Forall₂ (fun column path => ∃ leaf held, bossed.Applies .staff column path leaf held)
        columns paths ∧
      ∀ row error, row.size = paths.length → (bossed.scan .staff paths row).2 = .error error →
        ∃ column ∈ row.columns, ∃ cause, error = .decode column (.conversion cause) := by
  intro columns paths
  have compiled : Schema.staff.mapping bossed.type columns = .ok paths := by decide +kernel
  exact ⟨compiled, compiled_mapping_applies Schema.staff_grounded bossed_isInstance compiled⟩

end Record

end QueryBind
