/-
# QueryBind.Proofs.Postgres.Encoding — an argument is in the message whole or not at all

Writing an argument is one step (`OneStep`): it fails with the message as it was, passes it on for
NULL, or adds bytes behind it. Which of the three it is, and which bytes, does not depend on what
the message holds so far (`oneStep_write`).

* An integer under a type of `width` bytes is refused unless it fits in them, and the bytes that it
  adds are read back as that integer (`written_int`, `BigEndian.toInt_bytes_of_fits`). No integer is
  cut to the width of its type.
* A text under an enumeration adds its own bytes, whether or not it is one of the labels
  (`written_label`). Every other value is refused there (`refused_enumeration`).
-/
import Mathlib.Algebra.Ring.Int.Defs
import Mathlib.Algebra.Ring.Nat
import QueryBind.Postgres.Parameter

namespace QueryBind

set_option autoImplicit false

/-! ## Big-endian bytes -/

namespace BigEndian

@[simp] theorem length_natBytes (width n : Nat) : (natBytes width n).length = width := by
  induction width generalizing n with
  | zero => rfl
  | succ width ih => simp [natBytes, ih]

@[simp] theorem length_bytes (width : Nat) (n : Int) : (bytes width n).length = width :=
  length_natBytes width _

@[simp] theorem toNat_concat (s : List UInt8) (b : UInt8) :
    toNat (s ++ [b]) = 256 * toNat s + b.toNat := by
  simp [toNat]

/-- The bytes spell the number as far as they have room for it. -/
theorem toNat_natBytes (width n : Nat) : toNat (natBytes width n) = n % 256 ^ width := by
  induction width generalizing n with
  | zero => simp [natBytes, toNat, Nat.mod_one]
  | succ width ih =>
      have last : (UInt8.ofNat n).toNat = n % 256 := by simp
      rw [natBytes, toNat_concat, ih, last, Nat.pow_succ', Nat.mod_mul]
      omega

theorem toInt_bytes (width : Nat) (n : Int) :
    toInt (bytes width n) = Int.bmod n (256 ^ width) := by
  have modulus : (0 : Int) < (256 ^ width : Nat) := by
    exact_mod_cast Nat.pow_pos (by decide)
  have remainder : ((n % (256 ^ width : Nat)).toNat : Int) = n % (256 ^ width : Nat) :=
    Int.toNat_of_nonneg (Int.emod_nonneg _ (Int.ne_of_gt modulus))
  rw [toInt, length_bytes, bytes, toNat_natBytes]
  show Int.bmod (((n % (256 ^ width : Nat)).toNat % 256 ^ width : Nat) : Int) (256 ^ width) = _
  rw [Int.natCast_emod, remainder, Int.emod_bmod, Int.emod_bmod]

theorem fits_iff (width : Nat) (n : Int) :
    fits width n = true ↔ -2 ^ (8 * width - 1) ≤ n ∧ n < 2 ^ (8 * width - 1) := by
  have half : ((Nat.pow 2 (8 * width - 1) : Nat) : Int) = 2 ^ (8 * width - 1) :=
    Int.natCast_pow 2 _
  simp only [fits, half, Bool.and_eq_true, decide_eq_true_eq, and_comm]

/-- An integer that fits is read back. -/
theorem toInt_bytes_of_fits {width : Nat} {n : Int} (positive : 0 < width)
    (fitting : fits width n = true) : toInt (bytes width n) = n := by
  obtain ⟨low, high⟩ := (fits_iff width n).mp fitting
  have modulus : ((256 ^ width : Nat) : Int) = 2 * 2 ^ (8 * width - 1) := by
    have exponent : 8 * width = (8 * width - 1) + 1 := by omega
    have : (256 : Nat) ^ width = 2 * 2 ^ (8 * width - 1) := by
      rw [show (256 : Nat) = 2 ^ 8 from rfl, ← Nat.pow_mul, exponent, Nat.pow_succ']
      rfl
    exact_mod_cast this
  rw [toInt_bytes]
  exact Int.bmod_eq_of_le_mul_two (by omega) (by omega)

end BigEndian

namespace Postgres

/-- The number of bytes of an integer type. -/
def Builtin.integerWidth? : Builtin → Option Nat
  | .int2 => some 2
  | .int4 => some 4
  | .int8 => some 8
  | _ => none

namespace Parameter

/-- Writing the value under the type to a message succeeds, and leaves the message `after`. -/
def Written (value : Value) (type : DataType) (message after : List UInt8) : Prop :=
  ∃ presence, (write value type).run message = (.ok presence, after)

/-- Writing the value under the type to a message fails, and leaves the message `after`. -/
def Refused (value : Value) (type : DataType) (message after : List UInt8) : Prop :=
  ∃ e, (write value type).run message = (.error e, after)

/-! ## One step -/

/-- A writer that does one thing, whatever the message holds. -/
inductive OneStep (writer : Writer Presence) : Prop where
  | fails (e : EncodingError) (run : ∀ message, writer.run message = (.error e, message))
  | passes (run : ∀ message, writer.run message = (.ok .null, message))
  | appends (form : List UInt8)
      (run : ∀ message, writer.run message = (.ok .present, message ++ form))

theorem oneStep_append (form : List UInt8) : OneStep (append form) := .appends form fun _ => rfl

theorem oneStep_throw (e : EncodingError) : OneStep (throw e) := .fails e fun _ => rfl

theorem oneStep_writeFitting (width : Nat) (n : Int64) : OneStep (writeFitting width n) := by
  unfold writeFitting
  split
  · exact oneStep_append _
  · exact oneStep_throw _

theorem oneStep_write (value : Value) (type : DataType) : OneStep (write value type) := by
  unfold write
  -- a text under a type that is no enumeration has cases of its own
  split <;> try split
  all_goals
    first
    | exact oneStep_append _
    | exact oneStep_throw _
    | exact oneStep_writeFitting _ _
    | exact .passes fun _ => rfl

/-- The binary form of a value by itself says what becomes of any message. -/
theorem run_write (value : Value) (type : DataType) (message : List UInt8) :
    (write value type).run message =
      match encode value type with
      | .error e => (.error e, message)
      | .ok none => (.ok .null, message)
      | .ok (some form) => (.ok .present, message ++ form) := by
  unfold encode
  cases oneStep_write value type with
  | fails e run => rw [run, run]
  | passes run => rw [run, run]
  | appends form run => rw [run, run, List.nil_append]

theorem refused_same {value : Value} {type : DataType} {message after : List UInt8}
    (refused : Refused value type message after) : after = message := by
  obtain ⟨e, run⟩ := refused
  rw [run_write] at run
  split at run <;> cases run
  rfl

theorem isPrefix_of_written {value : Value} {type : DataType} {message after : List UInt8}
    (written : Written value type message after) : message <+: after := by
  obtain ⟨presence, run⟩ := written
  rw [run_write] at run
  split at run <;> cases run
  · exact List.prefix_rfl
  · exact List.prefix_append message _

theorem written_null (type : DataType) (message after : List UInt8) :
    Written .null type message after ↔ after = message := by
  constructor
  · rintro ⟨presence, run⟩
    cases run
    rfl
  · rintro rfl
    exact ⟨.null, rfl⟩

theorem written_of_append {value : Value} {type : DataType} {form : List UInt8}
    (writes : write value type = append form) (message after : List UInt8) :
    Written value type message after ↔ after = message ++ form := by
  rw [Written, writes]
  constructor
  · rintro ⟨presence, run⟩
    cases run
    rfl
  · rintro rfl
    exact ⟨.present, rfl⟩

theorem not_written_of_throw {value : Value} {type : DataType} {e : EncodingError}
    (throws : write value type = throw e) (message after : List UInt8) :
    ¬ Written value type message after := by
  rw [Written, throws]
  rintro ⟨presence, run⟩
  cases run

/-! ## Integers -/

theorem width_pos {type : Builtin} {width : Nat} (integer : type.integerWidth? = some width) :
    0 < width := by
  cases type <;> cases integer <;> decide

/-- Eight bytes have room for every integer. -/
theorem fits_eight (n : Int64) : BigEndian.fits 8 n.toInt = true :=
  (BigEndian.fits_iff 8 n.toInt).mpr ⟨n.le_toInt, n.toInt_lt⟩

theorem write_int {type : Builtin} {width : Nat} (integer : type.integerWidth? = some width)
    (n : Int64) : write (.int n) (.builtin type) = writeFitting width n := by
  cases type <;> cases integer
  case int2 | int4 => rfl
  case int8 => exact (if_pos (fits_eight n)).symm

theorem written_int {type : Builtin} {width : Nat} (integer : type.integerWidth? = some width)
    (n : Int64) (message after : List UInt8) :
    Written (.int n) (.builtin type) message after ↔
      BigEndian.fits width n.toInt = true ∧ after = message ++ BigEndian.bytes width n.toInt := by
  by_cases fitting : BigEndian.fits width n.toInt = true
  · have writes : write (.int n) (.builtin type) = append (BigEndian.bytes width n.toInt) :=
      (write_int integer n).trans (if_pos fitting)
    rw [written_of_append writes, and_iff_right fitting]
  · have throws := (write_int integer n).trans (if_neg fitting)
    exact iff_of_false (not_written_of_throw throws message after) fun both => fitting both.1

/-! ## Enumerations -/

theorem encode_toList (s : String) : Text.Utf8.encode s.toList = s.toUTF8.data.toList := by
  have bytes : s.toUTF8 = s.toList.utf8Encode := String.utf8Encode_toList.symm
  rw [bytes, List.utf8Encode, List.data_toByteArray, Text.Utf8.encode]

theorem written_label (schema name : String) (labels : List String) (s : String)
    (message after : List UInt8) :
    Written (.text s) (.enumeration schema name labels) message after ↔
      after = message ++ s.toUTF8.data.toList := by
  have writes : write (.text s) (.enumeration schema name labels) =
      append (Text.Utf8.encode s.toList) := rfl
  rw [written_of_append writes, encode_toList]

theorem refused_enumeration (schema name : String) (labels : List String) {value : Value}
    (given : value.kind ≠ .null) (noText : value.kind ≠ .text) (message : List UInt8) :
    Refused value (.enumeration schema name labels) message message := by
  cases value with
  | null => exact absurd rfl given
  | text => exact absurd rfl noText
  | _ => exact ⟨_, rfl⟩

/-! ## The message -/

/-- **An argument is written whole or not at all.** Under every type and behind every message, a
failure leaves the message as it was, and a success adds bytes at its end: none for NULL, which is
never refused. An integer is written under an integer type exactly if it lies in the range of as
many bytes as the type has, as that many bytes, which spell it in two's complement with the most
significant first. Under an enumeration a text is written as its UTF-8 bytes, and every other value
that is not NULL is refused. -/
theorem parameters_all_or_nothing (message : List UInt8) :
    (∀ value type after, Refused value type message after → after = message) ∧
    (∀ value type after, Written value type message after →
      message <+: after ∧ (value = .null → after = message)) ∧
    (∀ type, Written .null type message message) ∧
    (∀ (type : Builtin) width (n : Int64), type.integerWidth? = some width →
      ((∃ after, Written (.int n) (.builtin type) message after) ↔
        -2 ^ (8 * width - 1) ≤ n.toInt ∧ n.toInt < 2 ^ (8 * width - 1)) ∧
      ∀ after, Written (.int n) (.builtin type) message after →
        ∃ form, after = message ++ form ∧ form.length = width ∧ BigEndian.toInt form = n.toInt) ∧
    (∀ schema name labels (s : String) after,
      Written (.text s) (.enumeration schema name labels) message after ↔
        after = message ++ s.toUTF8.data.toList) ∧
    (∀ schema name labels (value : Value), value.kind ≠ .null → value.kind ≠ .text →
      Refused value (.enumeration schema name labels) message message) := by
  refine ⟨fun _ _ _ refused => refused_same refused, fun value type after written => ?_,
    fun type => (written_null type message message).mpr rfl, fun type width n integer => ?_,
    fun schema name labels s after => written_label schema name labels s message after,
    fun schema name labels value given noText =>
      refused_enumeration schema name labels given noText message⟩
  case refine_1 =>
    refine ⟨isPrefix_of_written written, ?_⟩
    rintro rfl
    exact (written_null type message after).mp written
  case refine_2 =>
    rw [← BigEndian.fits_iff]
    constructor
    · constructor
      · rintro ⟨after, written⟩
        exact ((written_int integer n message after).mp written).1
      · intro fitting
        exact ⟨_, (written_int integer n message _).mpr ⟨fitting, rfl⟩⟩
    · intro after written
      obtain ⟨fitting, rfl⟩ := (written_int integer n message after).mp written
      exact ⟨_, rfl, BigEndian.length_bytes width n.toInt,
        BigEndian.toInt_bytes_of_fits (width_pos integer) fitting⟩

/-- Behind a message: an integer that two bytes have no room for, the same in four bytes, a label,
and a number in place of one. -/
theorem mood_parameters :
    (¬ ∃ after, Written (.int 70000) (.builtin .int2) [66] after) ∧
    (∃ form, Written (.int 70000) (.builtin .int4) [66] ([66] ++ form) ∧ form.length = 4 ∧
      BigEndian.toInt form = 70000) ∧
    Written (.text "happy") (.enumeration "public" "mood" ["happy", "sad"]) [66]
      [66, 104, 97, 112, 112, 121] ∧
    Refused (.int 1) (.enumeration "public" "mood" ["happy", "sad"]) [66] [66] := by
  obtain ⟨-, -, -, integers, labels, others⟩ := parameters_all_or_nothing [66]
  refine ⟨fun written => ?_, ?_, (labels _ _ _ "happy" _).mpr (by decide),
    others _ _ _ (.int 1) (by decide) (by decide)⟩
  · have range := (integers .int2 2 70000 rfl).1.mp written
    exact absurd range (by decide)
  · obtain ⟨iff, spelled⟩ := integers .int4 4 70000 rfl
    obtain ⟨after, written⟩ := iff.mpr (by decide)
    obtain ⟨form, rfl, length, number⟩ := spelled after written
    exact ⟨form, written, length, number⟩

end Parameter

end Postgres

end QueryBind
