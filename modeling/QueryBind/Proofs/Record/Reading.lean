/-
# QueryBind.Proofs.Record.Reading — the paths that reading and storing accept

Storing brings every optional record on its way there, so it finds a field exactly where the type
has one: `Record.slot` is what storing does before it converts the value, and it accepts the paths
that lead to a scalar field (`slot_eq_ok_iff`). Reading brings nothing there. It stops short of a
field at an optional record that is not there, whatever the path says below it; it does not tell
that from an index past the fields of a record (`findCell_eq_unset_iff`, `Schema.Misses`).

* Where reading finds a field, storing finds the same one and allocates nothing.
* Reading refuses no path that storing accepts.
* A path that storing refuses is refused by reading, too, if each of its indices is one of the
  record it is met in and no optional record on its way is missing. Behind a missing one it reads
  as NULL, although the type has no such field (`pathless_field_reads_as_null`).
-/
import QueryBind.Proofs.Record.Layering

namespace QueryBind

set_option autoImplicit false

namespace Schema

variable {s : Schema}

/-- An index on the trail is past the fields of the record that it is met in. -/
def Misses (s : Schema) : (type : Nat) → (trail : List Nat) → Prop
  | _, [] => False
  | type, i :: rest =>
      match (s.fields type)[i]? with
      | some ⟨_, .nested inner _⟩ => s.Misses inner rest
      | some ⟨_, .scalar _⟩ => False
      | none => True

theorem misses_past {type i : Nat} (past : (s.fields type)[i]? = none) (rest : List Nat) :
    s.Misses type (i :: rest) := by
  simp only [Misses, past]

theorem not_misses_scalar {type i : Nat} {name : String} {t : FieldType}
    (found : (s.fields type)[i]? = some ⟨name, .scalar t⟩) (rest : List Nat) :
    ¬ s.Misses type (i :: rest) := by
  simp only [Misses, found, not_false_iff]

theorem misses_below {type i inner : Nat} {name : String} {hold : Hold}
    (found : (s.fields type)[i]? = some ⟨name, .nested inner hold⟩) (rest : List Nat) :
    s.Misses type (i :: rest) ↔ s.Misses inner rest := by
  simp only [Misses, found]

/-- A trail to a scalar field misses no field. -/
theorem not_misses_of_scalar {type : Nat} {trail : List Nat} (scalar : s.IsScalar type trail) :
    ¬ s.Misses type trail := by
  obtain ⟨t, leads⟩ := scalar
  induction type, trail, leads using scalar_induction with
  | last type i name leads found => exact not_misses_scalar found []
  | below type i name inner hold rest leads onward found further ih => rwa [misses_below found]

end Schema

namespace Cell

variable {s : Schema}

/-- A cell that a trail leads to agrees with the shape that the trail leads to. -/
theorem Fits.shape_at? {shape : Shape} {cell : Cell} (fits : cell.Fits s shape) {trail : List Nat}
    {there : Cell} (leads : cell.at? trail = some there) :
    ∃ shape', shape.at? s trail = some shape' ∧ there.Fits s shape' := by
  induction trail generalizing shape cell with
  | nil =>
      obtain rfl : cell = there := by simpa [at?] using leads
      exact ⟨shape, by cases shape <;> rfl, fits⟩
  | cons i rest ih =>
      cases fits with
      | scalar held => simp [at?] at leads
      | unset type => simp at leads
      | @record type hold cells width each =>
          simp only [at?] at leads
          split at leads
          · next cell found =>
              have inside : i < (s.fields type).length :=
                width ▸ (List.getElem?_eq_some_iff.mp found).1
              have field := List.getElem?_eq_getElem inside
              obtain ⟨shape', onward, fit⟩ := ih (each i _ cell field found) leads
              exact ⟨shape', by simpa only [Shape.at?, field] using onward, fit⟩
          · cases leads

/-- A record has a cell for each field of its type and no other. -/
theorem Fits.getElem?_eq_none_iff {cells : List Cell} {type : Nat} {hold : Hold}
    (fits : (Cell.record cells).Fits s (.nested type hold)) (i : Nat) :
    cells[i]? = none ↔ (s.fields type)[i]? = none := by
  cases fits with
  | record width each => rw [List.getElem?_eq_none_iff, List.getElem?_eq_none_iff, width]

theorem not_interrupts_nil {cells : List Cell} : ¬ (Cell.record cells).Interrupts [] := by
  rintro ⟨way, passed, unset⟩
  obtain rfl := List.prefix_nil.mp passed
  simp [at?] at unset

end Cell

namespace Record

variable {s : Schema}

/-! ## Storing -/

/-- The record with the optional records on the way of a path allocated, and the scalar field at its
end. -/
def slot (s : Schema) (r : Record) (path : FieldPath) : Record × Except BindingError Held :=
  (r.allocate s path,
    match (r.allocate s path).find path with
    | .scalar held => .ok held
    | _ => .error (.unreachableField path.indices))

/-- Storing converts the value for the field that it finds. -/
theorem store_eq_slot (r : Record) (path : FieldPath) (v : Value) : r.store s path v =
    match r.slot s path with
    | (opened, .ok held) =>
        match held.store v with
        | .ok stored => (opened.put path stored, .ok ())
        | .error cause => (opened, .error (.conversion cause))
    | (opened, .error cause) => (opened, .error (.unreachable cause)) := by
  simp only [store, slot]
  cases (r.allocate s path).find path <;> rfl

/-- Storing refuses a path with the error of its slot, whatever the value. -/
theorem store_unreachable_iff {r : Record} {path : FieldPath} {v : Value} {e : BindingError} :
    (r.store s path v).2 = .error (.unreachable e) ↔ (r.slot s path).2 = .error e := by
  rw [store_eq_slot]
  rcases r.slot s path with ⟨opened, cause | held⟩
  · simp
  · simp only [reduceCtorEq, iff_false]
    cases held.store v <;> simp

/-- What looking up finds in an instance is a scalar field of the type. -/
theorem isScalar_of_findCell {type : Nat} {trail : List Nat} {held : Held} {cells : List Cell}
    (fits : (Cell.record cells).Fits s (.nested type .inline))
    (found : findCell trail cells = .scalar held) : s.IsScalar type trail := by
  obtain ⟨shape, leads, fit⟩ := fits.shape_at? (findCell_eq_scalar_iff.mp found)
  cases fit with
  | scalar held => exact ⟨held.type, leads⟩

/-- Storing accepts the paths to scalar fields. -/
theorem slot_eq_ok_iff (grounded : s.Grounded) {r : Record} (made : r.IsInstance s)
    {path : FieldPath} :
    (∃ held, (r.slot s path).2 = .ok held) ↔ s.IsScalar r.type path.indices := by
  constructor
  · rintro ⟨held, ok⟩
    simp only [slot] at ok
    split at ok
    · next found => exact isScalar_of_findCell (isInstance_allocate grounded made path) found
    · cases ok
  · rintro ⟨t, leads⟩
    obtain ⟨held, -, found, -⟩ := find_allocate grounded made leads
    exact ⟨held, by simp only [slot, found]⟩

theorem slot_eq_error_iff (grounded : s.Grounded) {r : Record} (made : r.IsInstance s)
    {path : FieldPath} {e : BindingError} : (r.slot s path).2 = .error e ↔
      ¬ s.IsScalar r.type path.indices ∧ e = .unreachableField path.indices := by
  rw [← slot_eq_ok_iff grounded made]
  simp only [slot]
  split <;> simp [eq_comm]

/-! ## Reading -/

/-- Reading stops before it can tell whether the path leads to a field: at an optional record that
is not there, or at an index without a field. -/
def StopsShort (s : Schema) (r : Record) (trail : List Nat) : Prop :=
  (Cell.record r.cells).Interrupts trail.dropLast ∨ s.Misses r.type trail

theorem findCell_eq_unset_iff {type : Nat} {cells : List Cell} {trail : List Nat}
    (fits : (Cell.record cells).Fits s (.nested type .inline)) :
    findCell trail cells = .unset ↔ StopsShort s ⟨type, cells⟩ trail := by
  unfold StopsShort
  induction trail generalizing type cells with
  | nil => simp [findCell, Cell.not_interrupts_nil, Schema.Misses]
  | cons i rest ih =>
      cases found : (s.fields type)[i]? with
      | none =>
          have past := (fits.getElem?_eq_none_iff i).mpr found
          have missed := Schema.misses_past found rest
          cases rest <;> simp [findCell, past, missed]
      | some field =>
          obtain ⟨name, shape⟩ := field
          obtain ⟨cell, there, fit⟩ := fits.cell found
          cases rest with
          | nil =>
              have reached : ¬ s.Misses type [i] := by
                cases shape with
                | scalar t => exact Schema.not_misses_scalar found []
                | nested inner hold =>
                    rw [Schema.misses_below found]
                    exact id
              cases cell <;> simp [findCell, there, Cell.not_interrupts_nil, reached]
          | cons j rest =>
              rw [List.dropLast_cons_cons, Cell.interrupts_record_cons there]
              cases fit with
              | scalar held =>
                  have reached := Schema.not_misses_scalar found (j :: rest)
                  simp [findCell, there, Cell.not_interrupts_scalar, reached]
              | unset inner =>
                  simp [findCell, there, Cell.interrupts_unset]
              | record width each =>
                  rw [Schema.misses_below found, ← ih (.record width each)]
                  simp only [findCell, there]

/-- Storing has nothing to allocate on the way to a field that is there. -/
theorem allocateCells_of_at? {trail : List Nat} {held : Held} {cells : List Cell}
    (ends : (Cell.record cells).at? trail = some (.scalar held)) (fields : List Field) :
    allocateCells s fields trail cells = cells := by
  induction trail generalizing fields cells with
  | nil => rfl
  | cons i rest ih =>
      cases rest with
      | nil => rfl
      | cons j rest =>
          obtain ⟨inner, there, onward⟩ := Cell.exists_record_of_at? ends (List.cons_ne_nil j rest)
          simp only [allocateCells]
          split
          · simp only [List.modify_eq_set, there, Option.getD_some, ih onward]
            exact Cell.set_of_some there
          · rfl

section Laws

variable {r : Record} (made : r.IsInstance s) (path : FieldPath)

include made

theorem field_eq_none_iff : r.field path = .ok none ↔ r.StopsShort s path.indices := by
  rw [← findCell_eq_unset_iff made, field, find]
  cases findCell path.indices r.cells <;> simp

theorem slot_of_field {held : Held} (found : r.field path = .ok (some held)) :
    s.IsScalar r.type path.indices ∧ r.slot s path = (r, .ok held) := by
  have ends : findCell path.indices r.cells = .scalar held := by
    rw [field, find] at found
    split at found <;> simp_all
  obtain ⟨t, leads⟩ := isScalar_of_findCell made ends
  have unchanged : r.allocate s path = r := by
    rw [allocate, allocateCells_of_at? (findCell_eq_scalar_iff.mp ends)]
  exact ⟨⟨t, leads⟩, by simp only [slot, unchanged, find, ends]⟩

/-- Reading refuses the paths without a scalar field on which it does not stop short. -/
theorem field_eq_error_iff (grounded : s.Grounded) {e : BindingError} : r.field path = .error e ↔
    (r.slot s path).2 = .error e ∧ ¬ r.StopsShort s path.indices := by
  rw [← field_eq_none_iff made, slot_eq_error_iff grounded made]
  constructor
  · intro refused
    refine ⟨⟨fun ⟨t, leads⟩ => ?_, ?_⟩, by simp [refused]⟩
    · obtain ⟨held, -, -, unset, reads⟩ := find_allocate grounded made leads
      by_cases interrupted : (Cell.record r.cells).Interrupts path.indices
      · simp [unset interrupted] at refused
      · simp [reads interrupted] at refused
    · rw [field] at refused
      split at refused <;> simp_all
  · rintro ⟨⟨no_field, rfl⟩, not_short⟩
    cases read : r.field path with
    | ok held? =>
        cases held? with
        | none => exact absurd read not_short
        | some held => exact absurd (slot_of_field made path read).1 no_field
    | error e =>
        rw [field] at read
        split at read <;> simp_all

/-- The path leads to no scalar field, and no optional record on its way is missing. -/
def Refuses (s : Schema) (r : Record) (trail : List Nat) : Prop :=
  ¬ s.IsScalar r.type trail ∧ ¬ (Cell.record r.cells).Interrupts trail.dropLast

/-- With no index past the fields of a record, only an optional record that is missing stops
reading. -/
theorem field_eq_error_iff_refuses (grounded : s.Grounded)
    (known : ¬ s.Misses r.type path.indices) {e : BindingError} : r.field path = .error e ↔
      r.Refuses s path.indices ∧ e = .unreachableField path.indices := by
  rw [field_eq_error_iff made path grounded, slot_eq_error_iff grounded made, StopsShort, Refuses]
  tauto

end Laws

theorem value_eq_error_iff {r : Record} {path : FieldPath} {e : BindingError} :
    r.value path = .error e ↔ r.field path = .error e := by
  rw [value]
  cases r.field path <;> simp [Except.map]

theorem exists_value_iff {r : Record} {path : FieldPath} :
    (∃ v, r.value path = .ok v) ↔ ∀ e, r.field path ≠ .error e := by
  rw [value]
  cases r.field path <;> simp [Except.map]

/-- What reading and storing make of one path. -/
structure Compared (s : Schema) (r : Record) (path : FieldPath) : Prop where
  /-- Storing finds a field exactly if the path leads to a scalar field of the type. -/
  stores : (∃ held, (r.slot s path).2 = .ok held) ↔ s.IsScalar r.type path.indices
  /-- Otherwise it fails, for every value, and the error tells the path. -/
  refuses : ∀ v e, (r.store s path v).2 = .error (.unreachable e) ↔
    ¬ s.IsScalar r.type path.indices ∧ e = .unreachableField path.indices
  /-- A field that reading finds is the one that storing finds, with nothing allocated for it. -/
  same : ∀ held, r.field path = .ok (some held) → r.slot s path = (r, .ok held)
  /-- Reading fails only where storing does, and with the same error. -/
  follows : ∀ e, r.field path = .error e → (r.slot s path).2 = .error e
  /-- Below an optional record that is missing there is no field to read, and its value is NULL. -/
  unset : (Cell.record r.cells).Interrupts path.indices.dropLast →
    r.field path = .ok none ∧ r.value path = .ok .null
  /-- Otherwise a path without an index past the fields of a record reads a field ... -/
  short : ¬ s.Misses r.type path.indices →
    (r.field path = .ok none ↔ (Cell.record r.cells).Interrupts path.indices.dropLast)
  /-- ... or fails, if storing fails. -/
  fails : ¬ s.Misses r.type path.indices → ∀ e, r.field path = .error e ↔
    (r.slot s path).2 = .error e ∧ ¬ (Cell.record r.cells).Interrupts path.indices.dropLast
  /-- A path to a scalar field has no such index. -/
  known : s.IsScalar r.type path.indices → ¬ s.Misses r.type path.indices

theorem compared_of_isInstance (grounded : s.Grounded) {r : Record} (made : r.IsInstance s)
    (path : FieldPath) : r.Compared s path where
  stores := slot_eq_ok_iff grounded made
  refuses v e := by rw [store_unreachable_iff, slot_eq_error_iff grounded made]
  same held found := (slot_of_field made path found).2
  follows e refused := ((field_eq_error_iff made path grounded).mp refused).1
  unset missing := by
    have nothing := (field_eq_none_iff made path).mpr (.inl missing)
    exact ⟨nothing, by rw [value, nothing]; rfl⟩
  short known := by
    rw [field_eq_none_iff made path, StopsShort]
    exact or_iff_left known
  fails known e := by
    rw [field_eq_error_iff made path grounded, StopsShort, or_iff_left known]
  known := Schema.not_misses_of_scalar

/-- **Reading fails where storing fails, unless an optional record on the way is missing.** For every
instance of a type, and every path, compiled for the type or not, the two compare as `Compared` says.
So the values of a mapping, of paths without an index past the fields of a record, fail with the
error of the first path that leads to no scalar field and has no missing record on its way. -/
theorem reading_agrees_with_storing (grounded : s.Grounded) {r : Record} (made : r.IsInstance s) :
    (∀ path : FieldPath, r.Compared s path) ∧
    ∀ mapping : List FieldPath, (∀ path ∈ mapping, ¬ s.Misses r.type path.indices) →
      ∀ e, r.values mapping = .error e ↔ ∃ earlier path later, mapping = earlier ++ path :: later ∧
        (∀ other ∈ earlier, ¬ r.Refuses s other.indices) ∧ r.Refuses s path.indices ∧
          e = .unreachableField path.indices := by
  refine ⟨compared_of_isInstance grounded made, fun mapping known e => ?_⟩
  rw [values, List.mapM_eq_error_iff]
  refine exists_congr fun earlier => exists_congr fun path => exists_congr fun later =>
    and_congr_right fun split => ?_
  subst split
  have failure {other : FieldPath} (inside : other ∈ earlier ++ path :: later) (e : BindingError) :
      r.field other = .error e ↔ r.Refuses s other.indices ∧ e = .unreachableField other.indices :=
    field_eq_error_iff_refuses made other grounded (known other inside)
  refine and_congr (forall₂_congr fun other member => ?_) ?_
  · have inside := List.mem_append_left (path :: later) member
    simp [exists_value_iff, failure inside]
  · have inside : path ∈ earlier ++ path :: later := by simp
    rw [value_eq_error_iff, failure inside]

/-- An employee with a boss who has no boss: the path of the boss's number, that of the number of
the boss's boss, and that of the boss. -/
theorem bossed_read :
    let path trail := FieldPath.mk (UInt64.ofNat (FieldPath.pack 8 trail))
    (∃ held, bossed.field (path [3, 0]) = .ok (some held) ∧
        bossed.slot .staff (path [3, 0]) = (bossed, .ok held)) ∧
      bossed.value (path [3, 3, 0]) = .ok .null ∧
      bossed.values [path [3, 0], path [3, 3, 0], path [3]] = .error (.unreachableField [3]) := by
  dsimp only
  obtain ⟨compared, values⟩ :=
    reading_agrees_with_storing Schema.staff_grounded bossed_isInstance
  obtain ⟨held, ends⟩ : ∃ held, bossed.find ⟨UInt64.ofNat (FieldPath.pack 8 [3, 0])⟩ =
      .scalar held := ⟨_, rfl⟩
  have found : bossed.field ⟨UInt64.ofNat (FieldPath.pack 8 [3, 0])⟩ = .ok (some held) := by
    rw [field, ends]
  have missing : (Cell.record bossed.cells).Interrupts [3, 3] := ⟨[3, 3], List.prefix_rfl, rfl⟩
  refine ⟨⟨held, found, (compared _).same held found⟩,
    ((compared ⟨UInt64.ofNat (FieldPath.pack 8 [3, 3, 0])⟩).unset missing).2, ?_⟩
  refine (values _ ?_ _).mpr ⟨[_, _], _, [], rfl, ?_, ⟨?_, Cell.not_interrupts_nil⟩, rfl⟩
  · simp only [List.forall_mem_cons, List.not_mem_nil, false_imp_iff, forall_true_iff, and_true]
    exact ⟨id, id, id⟩
  · simp only [List.forall_mem_cons, List.not_mem_nil, false_imp_iff, forall_true_iff, and_true]
    exact ⟨fun refused => refused.1 ⟨_, rfl⟩, fun refused => refused.1 ⟨_, rfl⟩⟩
  · rintro ⟨t, leads⟩
    cases leads

/-- The path of a boss's boss's boss leads to no scalar field, so a store at it is refused. For an
employee whose boss has no boss, reading it gives no error all the same, and its value is NULL. -/
theorem pathless_field_reads_as_null :
    ∃ path, FieldPath.ofIndices [3, 3, 3] = .ok path ∧
      Schema.staff.Grounded ∧ bossed.IsInstance .staff ∧
      ¬ Schema.staff.IsScalar bossed.type path.indices ∧
      (bossed.slot .staff path).2 = .error (.unreachableField [3, 3, 3]) ∧
      bossed.field path = .ok none ∧ bossed.values [path] = .ok [.null] := by
  refine ⟨⟨UInt64.ofNat (FieldPath.pack 8 [3, 3, 3])⟩, rfl, Schema.staff_grounded, bossed_isInstance,
    ?_, rfl, rfl, rfl⟩
  rintro ⟨t, leads⟩
  cases leads

end Record

end QueryBind
