/-
# QueryBind.Proofs.Record.Refusal — what a refused column leaves

A scan stops at the first column whose value its field refuses (`FirstRefused`). The columns before
it are stored, which is the same as a scan of these columns alone. Of the refused column only the
way was made: the unset optional records on it are there, with blank fields (`Opened`), and its own
field is what it was. Of the columns after it nothing is stored, and nothing is allocated for them.

`storeAll_refused` says so for columns in turn, `refused_column_stops` for rows.
-/
import QueryBind.Proofs.Record.Reading

namespace QueryBind

set_option autoImplicit false

/-- The first `count` columns of a row. -/
def Row.take (row : Row) (count : Nat) : Row := ⟨row.columns.take count, row.values.take count⟩

namespace Record

variable {s : Schema}

/-! ## Allocation -/

/-- The record with the unset optional records on the way of a field made blank ones: these are
there now, and every scalar field reads as before, or as in a blank instance if it lies behind one
of them. -/
structure Opened (s : Schema) (before : Record) (path : FieldPath) (after : Record) : Prop where
  made : after.IsInstance s
  type : after.type = before.type
  present : ∀ way inner, s.shapeAt? before.type way = some (.nested inner .optional) →
    ((Cell.record after.cells).Present way ↔
      (Cell.record before.cells).Present way ∨ way <+: path.indices)
  /-- The field at the end of the path can be read, and is what it was if it could be before. -/
  own : ∃ held, after.field path = .ok (some held) ∧
    ∀ earlier, before.field path = .ok (some earlier) → earlier = held
  keeps : ∀ other, s.IsScalar before.type other.indices → Keeps s before after [path.indices] other

section Allocated

variable (grounded : s.Grounded) {r : Record} (made : r.IsInstance s) {path : FieldPath}
  (scalar : s.IsScalar r.type path.indices)

include grounded made scalar

theorem retains_allocate {other : List Nat} (scalar' : s.IsScalar r.type other) :
    Retains s r (r.allocate s path) [path.indices] other := by
  obtain ⟨t, leads⟩ := scalar
  exact retains_allocateCells grounded leads made scalar'

theorem opened_allocate : r.Opened s path (r.allocate s path) where
  made := isInstance_allocate grounded made path
  type := rfl
  present way inner optional := by
    obtain ⟨t, leads⟩ := scalar
    exact present_allocateCells grounded leads made optional
  own := by
    obtain ⟨t, leads⟩ := scalar
    obtain ⟨held, -, found, -⟩ := find_allocate grounded made leads
    have reads : (r.allocate s path).field path = .ok (some held) := by rw [field, found]
    refine ⟨held, reads, fun earlier before => ?_⟩
    have same := (slot_of_field made path before).2
    simp only [slot, found, Prod.mk.injEq, Except.ok.injEq] at same
    exact same.2.symm
  keeps other scalar' :=
    (retains_allocate grounded made scalar scalar').keeps grounded made
      (isInstance_allocate grounded made path) rfl scalar'

end Allocated

/-! ## Columns in turn -/

/-- The field at a path takes a value. -/
def Takes (s : Schema) (type : Nat) (path : FieldPath) (v : Value) : Prop :=
  ∃ t content, s.shapeAt? type path.indices = some (.scalar t) ∧ t.ofValue v = .ok content

/-- The field at a path refuses a value. -/
def Rejects (s : Schema) (type : Nat) (path : FieldPath) (v : Value) (cause : ConversionError) :
    Prop :=
  ∃ t, s.shapeAt? type path.indices = some (.scalar t) ∧ t.ofValue v = .error cause

theorem takes_or_rejects {type : Nat} {path : FieldPath} (scalar : s.IsScalar type path.indices)
    (v : Value) : Takes s type path v ∨ ∃ cause, Rejects s type path v cause := by
  obtain ⟨t, leads⟩ := scalar
  cases converted : t.ofValue v with
  | ok content => exact .inl ⟨t, content, leads, converted⟩
  | error cause => exact .inr ⟨cause, t, leads, converted⟩

section Columns

variable (grounded : s.Grounded) {r : Record} (made : r.IsInstance s)

include grounded made

theorem store_of_takes {path : FieldPath} {v : Value} (takes : Takes s r.type path v) :
    ∃ after, r.store s path v = (after, .ok ()) := by
  obtain ⟨t, content, leads, converted⟩ := takes
  rw [store_eq grounded made leads, converted]
  exact ⟨_, rfl⟩

theorem store_of_rejects {path : FieldPath} {v : Value} {cause : ConversionError}
    (rejects : Rejects s r.type path v cause) :
    r.store s path v = (r.allocate s path, .error (.conversion cause)) := by
  obtain ⟨t, leads, refused⟩ := rejects
  rw [store_eq grounded made leads, refused]

/-- Columns whose values are all taken are all stored. -/
theorem storeAll_of_takes {entries : List (FieldPath × Value × String)}
    (takes : ∀ entry ∈ entries, Takes s r.type entry.1 entry.2.1) :
    ∃ after, r.storeAll s entries = (after, .ok ()) := by
  induction entries generalizing r with
  | nil => exact ⟨r, rfl⟩
  | cons entry entries ih =>
      obtain ⟨path, v, column⟩ := entry
      obtain ⟨first, others⟩ := List.forall_mem_cons.mp takes
      obtain ⟨mid, put⟩ := store_of_takes grounded made first
      obtain ⟨t, content, leads, -⟩ := first
      obtain ⟨-, -, -, -, -, made', same⟩ := store_eq_ok grounded made ⟨t, leads⟩ put
      obtain ⟨after, onward⟩ := ih made' (same ▸ others)
      exact ⟨after, by simp only [storeAll, put, onward]⟩

/-- After columns were stored the optional records are there that were there before, and those that
their paths pass. -/
theorem present_storeAll {entries : List (FieldPath × Value × String)}
    (scalar : ∀ entry ∈ entries, s.IsScalar r.type entry.1.indices) {after : Record}
    (ok : r.storeAll s entries = (after, .ok ())) {way : List Nat} {inner : Nat}
    (optional : s.shapeAt? r.type way = some (.nested inner .optional)) :
    (Cell.record after.cells).Present way ↔
      (Cell.record r.cells).Present way ∨ ∃ entry ∈ entries, way <+: entry.1.indices := by
  induction entries generalizing r with
  | nil =>
      obtain rfl : r = after := by simpa [storeAll] using ok
      simp
  | cons entry entries ih =>
      obtain ⟨path, v, column⟩ := entry
      obtain ⟨first, others⟩ := List.forall_mem_cons.mp scalar
      simp only [storeAll] at ok
      split at ok
      · next mid put =>
          obtain ⟨t, content, leads, -, rfl, made', same⟩ := store_eq_ok grounded made first put
          rw [ih made' (same ▸ others) ok (same ▸ optional)]
          have step := present_stored ⟨t, content⟩ grounded leads made optional
          simp only [List.mem_cons, exists_eq_or_imp]
          exact (or_congr_left step).trans or_assoc
      · simp at ok

/-- A refused column leaves what the columns before it stored, with its own way opened. -/
theorem storeAll_refused {earlier : List (FieldPath × Value × String)} {path : FieldPath}
    {v : Value} {cause : ConversionError}
    (takes : ∀ entry ∈ earlier, Takes s r.type entry.1 entry.2.1)
    (rejects : Rejects s r.type path v cause) (column : String)
    (later : List (FieldPath × Value × String)) :
    ∃ before, r.storeAll s earlier = (before, .ok ()) ∧
      r.storeAll s (earlier ++ (path, v, column) :: later) =
        (before.allocate s path, .error (.decode column (.conversion cause))) ∧
      before.Opened s path (before.allocate s path) ∧
      ∀ other, s.IsScalar r.type other.indices →
        (∀ entry ∈ earlier, other.indices ≠ entry.1.indices) →
        Keeps s r (before.allocate s path) (earlier.map (·.1.indices) ++ [path.indices]) other := by
  have scalar : ∀ entry ∈ earlier, s.IsScalar r.type entry.1.indices := fun entry member =>
    (takes entry member).imp fun _ ⟨_, leads, _⟩ => leads
  obtain ⟨before, first⟩ := storeAll_of_takes grounded made takes
  obtain ⟨made', same, law⟩ := storeAll_retains grounded made scalar first
  have rejects' : Rejects s before.type path v cause := same ▸ rejects
  have scalar' : s.IsScalar before.type path.indices := rejects'.imp fun _ => And.left
  refine ⟨before, first, ?_, opened_allocate grounded made' scalar', fun other leads distinct => ?_⟩
  · simp only [storeAll_append_eq, first, storeAll, store_of_rejects grounded made' rejects']
    rfl
  · have opened := retains_allocate grounded made' scalar' (same ▸ leads)
    have both := (law other.indices leads distinct).trans same
      (fun way inner optional => ?_) opened
    · exact both.keeps grounded made (isInstance_allocate grounded made' path) same leads
    · simpa using present_storeAll grounded made scalar first optional

end Columns

/-! ## Rows -/

/-- The value of a column is refused by the field at the column's path, and no column before it
is. -/
structure FirstRefused (s : Schema) (type : Nat) (mapping : List FieldPath) (row : Row) (k : Nat)
    (path : FieldPath) (column : String) (cause : ConversionError) : Prop where
  mapped : mapping[k]? = some path
  named : row.columns[k]? = some column
  refused : ∃ v, row.values[k]? = some v ∧ Rejects s type path v cause
  earlier : ∀ j < k, ∃ path v, mapping[j]? = some path ∧ row.values[j]? = some v ∧
    Takes s type path v

theorem entries_take (mapping : List FieldPath) (row : Row) (k : Nat) :
    entries (mapping.take k) (row.take k) = (entries mapping row).take k := by
  simp only [entries, Row.take, List.zip_eq_zipWith, List.take_zipWith]

/-- The columns before the first refused one are taken. -/
theorem FirstRefused.takes {type k : Nat} {mapping : List FieldPath} {row : Row} {path : FieldPath}
    {column : String} {cause : ConversionError}
    (first : FirstRefused s type mapping row k path column cause) :
    ∀ entry ∈ (entries mapping row).take k, Takes s type entry.1 entry.2.1 := by
  rintro ⟨path', v', column'⟩ member
  obtain ⟨j, place⟩ := List.mem_iff_getElem?.mp member
  rw [List.getElem?_take] at place
  split at place
  · next before =>
      obtain ⟨mapped, value, -⟩ := getElem?_entries.mp place
      obtain ⟨path'', v'', mapped', value', takes⟩ := first.earlier j before
      obtain rfl : path'' = path' := Option.some.inj (mapped'.symm.trans mapped)
      obtain rfl : v'' = v' := Option.some.inj (value'.symm.trans value)
      exact takes
  · cases place

theorem FirstRefused.isAligned_take {type k : Nat} {mapping : List FieldPath} {row : Row}
    {path : FieldPath} {column : String} {cause : ConversionError}
    (first : FirstRefused s type mapping row k path column cause) : (row.take k).IsAligned := by
  obtain ⟨v, value, -⟩ := first.refused
  have columns := (List.getElem?_eq_some_iff.mp first.named).1
  have values := (List.getElem?_eq_some_iff.mp value).1
  simp only [Row.IsAligned, Row.take, List.length_take]
  omega

/-- If no column is the first refused one, all are taken. -/
theorem takes_of_unrefused {type : Nat} {mapping : List FieldPath} {row : Row}
    (scalar : ∀ path ∈ mapping, s.IsScalar type path.indices)
    (unrefused : ∀ k path column cause, ¬ FirstRefused s type mapping row k path column cause) :
    ∀ entry ∈ entries mapping row, Takes s type entry.1 entry.2.1 := by
  have at_place : ∀ (j : Nat) (entry : FieldPath × Value × String),
      (entries mapping row)[j]? = some entry → Takes s type entry.1 entry.2.1 := by
    intro j
    -- a refused column is the first one because those before it are taken
    induction j using Nat.strong_induction_on with
    | _ j ih =>
        rintro ⟨path, v, column⟩ place
        obtain ⟨mapped, value, named⟩ := getElem?_entries.mp place
        rcases takes_or_rejects (scalar path (List.mem_of_getElem? mapped)) v with takes | rejected
        · exact takes
        · obtain ⟨cause, rejects⟩ := rejected
          refine absurd ⟨mapped, named, ⟨v, value, rejects⟩, ?_⟩ (unrefused j path column cause)
          intro i before
          have inside := before.trans (List.getElem?_eq_some_iff.mp place).1
          have place' := List.getElem?_eq_getElem inside
          obtain ⟨mapped', value', -⟩ := getElem?_entries.mp place'
          exact ⟨_, _, mapped', value', ih i before _ place'⟩
  intro entry member
  obtain ⟨j, place⟩ := List.mem_iff_getElem?.mp member
  exact at_place j entry place

/-- **A failed scan leaves exactly the scanned prefix.** A row of another width than the mapping
changes nothing. Otherwise the error names the first column whose value is refused, and the record is
the one that a scan of the columns before it leaves, with the way of the refused column opened: its
own field is what it was, and so is every other that none of the earlier columns is stored at, up to
the optional records that were made. If no value is refused the scan succeeds. -/
theorem refused_column_stops (grounded : s.Grounded) {r : Record} (made : r.IsInstance s)
    {columns : List String} {mapping : List FieldPath}
    (compiled : s.mapping r.type columns = .ok mapping) (row : Row) :
    (mapping.length ≠ row.size → r.scan s mapping row =
      (r, .error (.binding (.widthMismatch mapping.length row.size)))) ∧
    (mapping.length = row.size →
      (∀ k path column cause, FirstRefused s r.type mapping row k path column cause →
        ∃ before, r.scan s (mapping.take k) (row.take k) = (before, .ok ()) ∧
          r.scan s mapping row =
            (before.allocate s path, .error (.decode column (.conversion cause))) ∧
          before.Opened s path (before.allocate s path) ∧
          ∀ other, s.IsScalar r.type other.indices →
            (∀ earlier ∈ mapping.take k, other.indices ≠ earlier.indices) →
            Keeps s r (before.allocate s path) ((mapping.take (k + 1)).map (·.indices)) other) ∧
      ((∀ k path column cause, ¬ FirstRefused s r.type mapping row k path column cause) →
        ∃ after, r.scan s mapping row = (after, .ok ()))) := by
  have scalar := Schema.isScalar_of_mapping compiled
  refine ⟨fun differ => if_neg differ, fun width => ⟨?_, fun none_refused => ?_⟩⟩
  · intro k path column cause first
    obtain ⟨v, value, rejects⟩ := first.refused
    have split := List.eq_take_append_cons_drop
      (getElem?_entries.mpr ⟨first.mapped, value, first.named⟩)
    obtain ⟨before, scanned, stops, opened, keeps⟩ := storeAll_refused grounded made
      first.takes rejects column ((entries mapping row).drop (k + 1))
    have width' : (mapping.take k).length = (row.take k).size := by
      simpa [Row.size, Row.take] using congrArg (min k) width
    have prefix_entries := entries_take mapping row k
    refine ⟨before, ?_, ?_, opened, fun other leads distinct => ?_⟩
    · rw [scan, if_pos width']
      exact (congrArg (r.storeAll s) prefix_entries).trans scanned
    · rw [scan, if_pos width]
      exact (congrArg (r.storeAll s) split).trans stops
    · have trails : ((entries mapping row).take k).map (·.1.indices) ++ [path.indices] =
          (mapping.take (k + 1)).map (·.indices) := by
        rw [← prefix_entries, trails_entries first.isAligned_take width', List.take_add_one,
          first.mapped, List.map_append]
        rfl
      refine trails ▸ keeps other leads fun entry member => ?_
      rw [← prefix_entries] at member
      exact distinct _ (List.of_mem_zip member).1
  · obtain ⟨after, stored⟩ := storeAll_of_takes grounded made (takes_of_unrefused scalar none_refused)
    exact ⟨after, by rw [scan, if_pos width]; exact stored⟩

/-- A row whose second value is refused by the number of a boss's boss. -/
theorem staff_refused :
    let path trail := FieldPath.mk (UInt64.ofNat (FieldPath.pack 8 trail))
    let columns := ["boss.id", "boss.boss.id", "boss.boss.code"]
    let mapping := [[3, 0], [3, 3, 0], [3, 3, 1, 0]].map path
    let row : Row := ⟨columns, [.int 1, .text "two", .text "B7"]⟩
    let cause := ConversionError.wrongKind .int64 .text
    Schema.staff.mapping 0 columns = .ok mapping ∧
      FirstRefused .staff 0 mapping row 1 (path [3, 3, 0]) "boss.boss.id" cause ∧
      ∃ before, (blank .staff 0).scan .staff (mapping.take 1) (row.take 1) = (before, .ok ()) ∧
        (blank .staff 0).scan .staff mapping row =
          (before.allocate .staff (path [3, 3, 0]),
            .error (.decode "boss.boss.id" (.conversion cause))) ∧
        before.Opened .staff (path [3, 3, 0]) (before.allocate .staff (path [3, 3, 0])) := by
  intro path columns mapping row cause
  have compiled : Schema.staff.mapping 0 columns = .ok mapping := by decide +kernel
  have first : FirstRefused .staff 0 mapping row 1 (path [3, 3, 0]) "boss.boss.id" cause := by
    refine ⟨rfl, rfl, ⟨_, rfl, .required .int64, by decide, rfl⟩, fun j before => ?_⟩
    obtain rfl : j = 0 := by omega
    exact ⟨_, _, rfl, rfl, .required .int64, (1 : Int64), by decide, rfl⟩
  have made := isInstance_blank Schema.staff_grounded 0
  obtain ⟨before, scanned, stops, opened, -⟩ :=
    ((refused_column_stops Schema.staff_grounded made compiled row).2 rfl).1 1 _ _ _ first
  exact ⟨compiled, first, before, scanned, stops, opened⟩

end Record

end QueryBind
