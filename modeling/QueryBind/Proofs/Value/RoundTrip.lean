/-
# QueryBind.Proofs.Value.RoundTrip — what a field holds is what it reads back

A field takes values of several kinds and gives its content back as a value of one. What it gives
back it takes again, as the content it had (`FieldType.ofValue_toValue`): whatever value a field was
set to, a second setting to the value it then shows changes nothing.

* An integer type holds the numbers of a range, each in one way (`HoldsNumbers`), takes an integer
  exactly if that is one of them, and keeps it (`ScalarType.counts_of_bounds`).
* An optional field holds nothing exactly for NULL, and is for any other value like the required
  one; data that is the null of JSON is a content (`ScalarType.extendedByNull`).
* A value that is refused leaves the field as it was.

Single precision is left out. A single is shown in double precision, where the bits of a number that
is none are not kept.
-/
import Mathlib.Algebra.Ring.Int.Defs
import QueryBind.Proofs.Record.Reading

namespace QueryBind

set_option autoImplicit false

/-! ## Integers -/

/-- A type holds the numbers from `least` to `greatest`, each in one way. -/
structure HoldsNumbers {α : Type} (least greatest : Int) (ofInt : Int → α) (toInt : α → Int) :
    Prop where
  within : ∀ x, least ≤ toInt x ∧ toInt x ≤ greatest
  toInt_ofInt : ∀ n, least ≤ n → n ≤ greatest → toInt (ofInt n) = n
  ofInt_toInt : ∀ x, ofInt (toInt x) = x

/-- A type of natural numbers below a bound, into which integers are reduced. -/
theorem HoldsNumbers.of_toNat {α : Type} {bits : Nat} {ofInt : Int → α} {toNat : α → Nat}
    (below : ∀ x, toNat x < 2 ^ bits) (injective : ∀ x y, toNat x = toNat y → x = y)
    (reduced : ∀ n, toNat (ofInt n) = (n % 2 ^ bits).toNat % 2 ^ bits) :
    HoldsNumbers 0 (2 ^ bits - 1) ofInt fun x => toNat x := by
  have positive : (0 : Int) < 2 ^ bits := Int.pow_pos (by decide)
  have kept (n : Int) (lower : 0 ≤ n) (upper : n < 2 ^ bits) : (toNat (ofInt n) : Int) = n := by
    rw [reduced]
    push_cast
    rw [Int.toNat_of_nonneg (Int.emod_nonneg _ positive.ne'), Int.emod_emod,
      Int.emod_eq_of_lt lower upper]
  have below (x : α) : (toNat x : Int) < 2 ^ bits := by exact_mod_cast below x
  refine ⟨fun x => ⟨Int.natCast_nonneg _, Int.le_sub_one_of_lt (below x)⟩,
    fun n lower upper => kept n lower (Int.lt_of_le_sub_one upper), fun x => injective _ _ ?_⟩
  exact_mod_cast kept (toNat x) (Int.natCast_nonneg _) (below x)

namespace ScalarType

theorem int8_numbers : HoldsNumbers (-128) 127 Int8.ofInt Int8.toInt where
  within x := ⟨x.le_toInt, by have := x.toInt_lt; omega⟩
  toInt_ofInt n lower upper := Int8.toInt_ofInt_of_le lower (by omega)
  ofInt_toInt := Int8.ofInt_toInt

theorem int16_numbers : HoldsNumbers (-32768) 32767 Int16.ofInt Int16.toInt where
  within x := ⟨x.le_toInt, by have := x.toInt_lt; omega⟩
  toInt_ofInt n lower upper := Int16.toInt_ofInt_of_le lower (by omega)
  ofInt_toInt := Int16.ofInt_toInt

theorem int32_numbers : HoldsNumbers (-2147483648) 2147483647 Int32.ofInt Int32.toInt where
  within x := ⟨x.le_toInt, by have := x.toInt_lt; omega⟩
  toInt_ofInt n lower upper := Int32.toInt_ofInt_of_le lower (by omega)
  ofInt_toInt := Int32.ofInt_toInt

theorem uint8_numbers : HoldsNumbers 0 (2 ^ 8 - 1) UInt8.ofInt fun x => x.toNat :=
  .of_toNat UInt8.toNat_lt (fun _ _ => UInt8.toNat_inj.mp) fun _ => UInt8.toNat_ofNat'

theorem uint16_numbers : HoldsNumbers 0 (2 ^ 16 - 1) UInt16.ofInt fun x => x.toNat :=
  .of_toNat UInt16.toNat_lt (fun _ _ => UInt16.toNat_inj.mp) fun _ => UInt16.toNat_ofNat'

theorem uint32_numbers : HoldsNumbers 0 (2 ^ 32 - 1) UInt32.ofInt fun x => x.toNat :=
  .of_toNat UInt32.toNat_lt (fun _ _ => UInt32.toNat_inj.mp) fun _ => UInt32.toNat_ofNat'

/-- The least and the greatest number of an integer type. -/
def bounds? : ScalarType → Option (Int × Int)
  | .int8 => some (-2 ^ 7, 2 ^ 7 - 1)
  | .int16 => some (-2 ^ 15, 2 ^ 15 - 1)
  | .int32 => some (-2 ^ 31, 2 ^ 31 - 1)
  | .int64 => some (-2 ^ 63, 2 ^ 63 - 1)
  | .uint8 => some (0, 2 ^ 8 - 1)
  | .uint16 => some (0, 2 ^ 16 - 1)
  | .uint32 => some (0, 2 ^ 32 - 1)
  | _ => none

/-- The number that the content of an integer type is. -/
def number? : (t : ScalarType) → t.Content → Option Int
  | .int8, (n : Int8) => some n.toInt
  | .int16, (n : Int16) => some n.toInt
  | .int32, (n : Int32) => some n.toInt
  | .int64, (n : Int64) => some n.toInt
  | .uint8, (n : UInt8) => some n.toNat
  | .uint16, (n : UInt16) => some n.toNat
  | .uint32, (n : UInt32) => some n.toNat
  | _, _ => none

/-- The type takes the integers of a range and shows them as they are. -/
structure Counts (t : ScalarType) (least greatest : Int) : Prop where
  takes : ∀ n x, t.ofValue (.int n) = .ok x ↔ t.number? x = some n.toInt
  range : ∀ k, (∃ x, t.number? x = some k) ↔ least ≤ k ∧ k ≤ greatest
  shows : ∀ x, ∃ n, t.toValue x = .int n ∧ t.number? x = some n.toInt

variable {t : ScalarType} {least greatest : Int}

/-- A range check takes the numbers of the range. -/
theorem bounded_eq_ok_iff {α : Type} {ofInt : Int → α} {toInt : α → Int}
    (numbers : HoldsNumbers least greatest ofInt toInt) (n : Int64) (x : α) :
    bounded t least greatest ofInt (.int n) = .ok x ↔ toInt x = n.toInt := by
  simp only [bounded]
  split
  · next within =>
      rw [Except.ok.injEq]
      constructor
      · rintro rfl
        exact numbers.toInt_ofInt _ within.1 within.2
      · intro same
        rw [← same, numbers.ofInt_toInt]
  · next outside =>
      refine iff_of_false (fun taken => by cases taken) fun same => outside ?_
      exact same ▸ numbers.within x

theorem counts_of_bounded {ofInt : Int → t.Content} {toInt : t.Content → Int}
    (numbers : HoldsNumbers least greatest ofInt toInt) (wide : -2 ^ 63 ≤ least ∧ greatest < 2 ^ 63)
    (taken : ∀ n, t.ofValue (.int n) = bounded t least greatest ofInt (.int n))
    (number : ∀ x, t.number? x = some (toInt x))
    (shown : ∀ x, t.toValue x = .int (Int64.ofInt (toInt x))) : t.Counts least greatest where
  takes n x := by rw [taken, bounded_eq_ok_iff numbers, number, Option.some.injEq]
  range k := by
    simp only [number, Option.some.injEq]
    constructor
    · rintro ⟨x, rfl⟩
      exact numbers.within x
    · rintro ⟨lower, upper⟩
      exact ⟨ofInt k, numbers.toInt_ofInt k lower upper⟩
  shows x := by
    have within := numbers.within x
    refine ⟨Int64.ofInt (toInt x), shown x, ?_⟩
    rw [number, Int64.toInt_ofInt_of_le (by omega) (by omega)]

theorem counts_of_bounds (bounds : t.bounds? = some (least, greatest)) :
    t.Counts least greatest := by
  cases t <;> cases bounds
  case int8 =>
    exact counts_of_bounded int8_numbers (by decide) (fun _ => rfl) (fun _ => rfl) fun _ => rfl
  case int16 =>
    exact counts_of_bounded int16_numbers (by decide) (fun _ => rfl) (fun _ => rfl) fun _ => rfl
  case int32 =>
    exact counts_of_bounded int32_numbers (by decide) (fun _ => rfl) (fun _ => rfl) fun _ => rfl
  case int64 =>
    refine ⟨fun (n x : Int64) => ?_, fun k => ?_, fun (x : Int64) => ⟨x, rfl, rfl⟩⟩
    · simp only [ofValue, number?, Option.some.injEq, Int64.toInt_inj]
      exact ⟨fun taken => (Except.ok.inj taken).symm, congrArg Except.ok ∘ Eq.symm⟩
    · simp only [number?, Option.some.injEq]
      constructor
      · rintro ⟨(x : Int64), rfl⟩
        exact ⟨x.le_toInt, Int.le_sub_one_of_lt x.toInt_lt⟩
      · rintro ⟨lower, upper⟩
        exact ⟨Int64.ofInt k, Int64.toInt_ofInt_of_le lower (by omega)⟩
  case uint8 =>
    exact counts_of_bounded uint8_numbers (by decide) (fun _ => rfl) (fun _ => rfl) fun _ => rfl
  case uint16 =>
    exact counts_of_bounded uint16_numbers (by decide) (fun _ => rfl) (fun _ => rfl) fun _ => rfl
  case uint32 =>
    exact counts_of_bounded uint32_numbers (by decide) (fun _ => rfl) (fun _ => rfl) fun _ => rfl

/-! ## Required and optional types -/

theorem ofValue_toValue (precise : t ≠ .single) (x : t.Content) :
    t.ofValue (t.toValue x) = .ok x := by
  cases bounds : t.bounds? with
  | some range =>
      have counts := counts_of_bounds bounds
      obtain ⟨n, shown, number⟩ := counts.shows x
      rw [shown]
      exact (counts.takes n x).mpr number
  | none =>
      cases t with
      | single => exact absurd rfl precise
      | int8 | int16 | int32 | int64 | uint8 | uint16 | uint32 => cases bounds
      | bool | double | text | bytes | json | date | timestamp | timestamptz | uuid => rfl

theorem argument_eq_toValue (x : t.Content) : t.argument x = t.toValue x := by
  cases t <;> rfl

/-- No content of a required type is NULL ... -/
theorem toValue_ne_null (x : t.Content) : t.toValue x ≠ .null := by
  cases t <;> exact Value.noConfusion

/-- ... and no required type takes it. -/
theorem exists_ofValue_null (t : ScalarType) : ∃ e, t.ofValue .null = .error e := by
  cases t <;> exact ⟨_, rfl⟩

end ScalarType

namespace FieldType

/-- The type of the content, if there is one. -/
def scalar : FieldType → ScalarType
  | .required t => t
  | .optional t => t

theorem ofValue_optional (t : ScalarType) {v : Value} (some : v ≠ .null) :
    (optional t).ofValue v = (t.ofValue v).map Option.some := by
  cases v with
  | null => exact absurd rfl some
  | _ => rfl

/-- What a field shows, it takes back as the content that it has. -/
theorem ofValue_toValue {t : FieldType} (precise : t.scalar ≠ .single) (x : t.Content) :
    t.ofValue (t.toValue x) = .ok x := by
  cases t with
  | required t => exact ScalarType.ofValue_toValue precise x
  | optional t =>
      have precise : t ≠ .single := precise
      cases x with
      | none => rfl
      | some x =>
          rw [toValue, ofValue_optional t (ScalarType.toValue_ne_null x),
            ScalarType.ofValue_toValue precise x]
          rfl

theorem argument_eq_toValue {t : FieldType} (x : t.Content) : t.argument x = t.toValue x := by
  cases t with
  | required t => exact ScalarType.argument_eq_toValue x
  | optional t =>
      cases x with
      | none => rfl
      | some x => exact ScalarType.argument_eq_toValue x

end FieldType

/-- An optional field holds nothing for NULL, which the required type refuses, and takes any other
value like the required type. -/
structure ScalarType.ExtendedByNull (t : ScalarType) : Prop where
  refuses : ∃ e, t.ofValue .null = .error e
  null : (FieldType.optional t).ofValue .null = .ok none
  other : ∀ v, v ≠ .null → (FieldType.optional t).ofValue v = (t.ofValue v).map some
  holdsNothing : ∀ v, (FieldType.optional t).ofValue v = .ok none ↔ v = .null
  showsNull : ∀ x, (FieldType.optional t).toValue x = .null ↔ x = none

theorem ScalarType.extendedByNull (t : ScalarType) : t.ExtendedByNull where
  refuses := exists_ofValue_null t
  null := rfl
  other v := FieldType.ofValue_optional t
  holdsNothing v := by
    constructor
    · intro taken
      by_contra some
      rw [FieldType.ofValue_optional t some] at taken
      cases converted : t.ofValue v with
      | ok x =>
          rw [converted] at taken
          cases taken
      | error e =>
          rw [converted] at taken
          cases taken
    · rintro rfl
      rfl
  showsNull x := by
    cases x with
    | none => exact iff_of_true rfl rfl
    | some x => exact iff_of_false (toValue_ne_null x) (Option.some_ne_none x)

/-! ## Fields -/

namespace Record

/-- Putting into a field what it holds changes nothing. -/
theorem putCell_of_at? {trail : List Nat} {held : Held} {cells : List Cell}
    (ends : (Cell.record cells).at? trail = some (.scalar held)) :
    putCell held trail cells = cells := by
  induction trail generalizing cells with
  | nil => rfl
  | cons i rest ih =>
      cases rest with
      | nil => exact Cell.set_of_some ((Cell.at?_singleton cells i).symm.trans ends)
      | cons j rest =>
          obtain ⟨inner, there, onward⟩ := Cell.exists_record_of_at? ends (List.cons_ne_nil j rest)
          rw [putCell_below there (List.cons_ne_nil j rest), ih onward]
          exact Cell.set_of_some there

variable {s : Schema} {r : Record} {path : FieldPath} {held : Held}

section Found

variable (found : r.find path = .scalar held)

include found

theorem find_put (new : Held) : (r.put path new).find path = .scalar new :=
  findCell_eq_scalar_iff.mpr (at?_putCell_self (findCell_eq_scalar_iff.mp found))

theorem put_of_find : r.put path held = r := by
  rw [put, putCell_of_at? (findCell_eq_scalar_iff.mp found)]

theorem allocate_of_find : r.allocate s path = r := by
  rw [allocate, allocateCells_of_at? (findCell_eq_scalar_iff.mp found)]

/-- A field that is there takes back what it shows, and nothing changes. -/
theorem store_shown (precise : held.type.scalar ≠ .single) :
    r.store s path held.toValue = (r, .ok ()) := by
  have still : (r.allocate s path).find path = .scalar held := by rwa [allocate_of_find found]
  rw [store_of_find still, Held.toValue, FieldType.ofValue_toValue precise, allocate_of_find found]
  exact congrArg (fun same => (same, Except.ok ())) (put_of_find found)

theorem value_of_find : r.value path = .ok held.toValue := by
  rw [value, field, found]
  rfl

end Found

/-- A field that is set to a value holds what the value is converted to, and setting it to what it
then shows changes nothing; or it refuses the value and holds what it held. -/
structure Settles (s : Schema) (r : Record) (path : FieldPath) (held : Held) (v : Value) :
    Prop where
  taken : ∀ after, r.store s path v = (after, .ok ()) →
    ∃ content shown, held.type.ofValue v = .ok content ∧
      after.find path = .scalar ⟨held.type, content⟩ ∧ after.value path = .ok shown ∧
        after.store s path shown = (after, .ok ())
  refused : ∀ after e, r.store s path v = (after, .error e) →
    (∃ cause, held.type.ofValue v = .error cause ∧ e = .conversion cause) ∧
      after = r.allocate s path ∧ after.find path = .scalar held

theorem settles (precise : held.type.scalar ≠ .single)
    (found : (r.allocate s path).find path = .scalar held) (v : Value) :
    Settles s r path held v := by
  have stored := store_of_find found v
  cases converted : held.type.ofValue v with
  | ok content =>
      rw [converted] at stored
      have reached := find_put found ⟨held.type, content⟩
      refine ⟨fun after ok => ?_, fun after e refused => ?_⟩
      · obtain rfl : (r.allocate s path).put path ⟨held.type, content⟩ = after := by
          simpa using stored.symm.trans ok
        exact ⟨content, _, converted, reached, value_of_find reached, store_shown reached precise⟩
      · cases stored.symm.trans refused
  | error cause =>
      rw [converted] at stored
      refine ⟨fun after ok => ?_, fun after e refused => ?_⟩
      · cases stored.symm.trans ok
      · cases stored.symm.trans refused
        exact ⟨⟨cause, converted, rfl⟩, rfl, found⟩

end Record

/-- **What a field shows is what it holds.** Every type but single precision takes back what its
content shows, as that content, and shows what the content is as an argument. So a field, wherever
it is in a record, either takes a value, and then setting it to what it shows changes nothing more,
or refuses it and holds what it held. An integer type takes an integer exactly if it is in its range
and keeps the number. An optional field differs from a required one in NULL only, which it alone
takes, shows and holds nothing for; the null of JSON is a content like any other. -/
theorem conversions_round_trip :
    (∀ t : FieldType, t.scalar ≠ .single → ∀ x : t.Content,
      t.ofValue (t.toValue x) = .ok x ∧ t.argument x = t.toValue x) ∧
    (∀ s (r : Record) path held, (r.allocate s path).find path = .scalar held →
      held.type.scalar ≠ .single → ∀ v, Record.Settles s r path held v) ∧
    (∀ (t : ScalarType) least greatest, t.bounds? = some (least, greatest) → ∀ n : Int64,
      ((∃ x, t.ofValue (.int n) = .ok x) ↔ least ≤ n.toInt ∧ n.toInt ≤ greatest) ∧
        ∀ x, t.ofValue (.int n) = .ok x → t.number? x = some n.toInt ∧ t.toValue x = .int n) ∧
    (∀ t : ScalarType, t.ExtendedByNull) ∧
    (FieldType.optional .json).ofValue (.json .null) = .ok (some Json.null) ∧
      (FieldType.optional .json).toValue (some Json.null) = .json .null := by
  refine ⟨fun t precise x => ⟨FieldType.ofValue_toValue precise x, FieldType.argument_eq_toValue x⟩,
    fun s r path held found precise v => Record.settles precise found v,
    fun t least greatest bounds n => ?_, ScalarType.extendedByNull, rfl, rfl⟩
  have counts := ScalarType.counts_of_bounds bounds
  refine ⟨by simp only [counts.takes, counts.range], fun x taken => ?_⟩
  have number := (counts.takes n x).mp taken
  obtain ⟨m, shown, same⟩ := counts.shows x
  obtain rfl : m = n := Int64.toInt_inj.mp (Option.some.inj (same.symm.trans number))
  exact ⟨number, shown⟩

/-- The null of JSON in an optional field, the number of an employee's boss set to a text, and the
two integers at the upper end of a byte. -/
theorem boundaries_round_trip :
    let path := FieldPath.mk (UInt64.ofNat (FieldPath.pack 8 [3, 0]))
    (FieldType.optional .json).ofValue (.json .null) = .ok (some Json.null) ∧
      (∃ held, (Record.bossed.allocate .staff path).find path = .scalar held ∧
        Record.Settles .staff Record.bossed path held (.text "none")) ∧
      (∃ x, ScalarType.uint8.ofValue (.int 255) = .ok x) ∧
        ¬ ∃ x, ScalarType.uint8.ofValue (.int 256) = .ok x := by
  obtain ⟨returns, settled, integers, -, -⟩ := conversions_round_trip
  have byte := integers .uint8 _ _ rfl
  refine ⟨(returns (.optional .json) (by decide) (some Json.null)).1,
    ⟨.blank (.required .int64), rfl, settled _ _ _ _ rfl (by decide) _⟩,
    (byte 255).1.mpr (by decide), fun taken => absurd ((byte 256).1.mp taken) (by decide)⟩

end QueryBind
