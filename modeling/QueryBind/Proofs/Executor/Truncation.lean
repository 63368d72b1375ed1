/-
# QueryBind.Proofs.Executor.Truncation — a logged statement is cut between characters

A statement text that is too long for the log is cut at the last boundary of its bytes up to the limit.
In the bytes of a text only the first byte of a character can be one that starts a character, so the
boundaries are where the prefixes of the text end (`Text.Utf8.isBoundary_encode_iff`). Hence the bytes
up to the last boundary spell a prefix, and the longest that fits (`Text.Utf8.exists_decode?`): any
other prefix that fits ends at a boundary as well, and no later.

What is cut off starts with a character that did not fit (`Text.Utf8.LongestWithin.exists_next`), so a
cut text lacks less than four bytes of the limit.
-/
import Mathlib.Data.List.Basic
import QueryBind.Executor.Log

namespace QueryBind

set_option autoImplicit false

namespace Text.Utf8

/-! ## Bytes of a prefix -/

theorem encode_append (s t : List Char) : encode (s ++ t) = encode s ++ encode t :=
  List.flatMap_append

theorem size_append (s t : List Char) : size (s ++ t) = size s + size t := by
  rw [← length_encode, ← length_encode, ← length_encode, encode_append, List.length_append]

theorem take_encode_of_prefix {p s : List Char} (isPrefix : p <+: s) :
    (encode s).take (size p) = encode p := by
  obtain ⟨rest, rfl⟩ := isPrefix
  rw [encode_append, ← length_encode, List.take_left]

/-- The bytes of a text spell that text. -/
theorem decode?_encode (s : List Char) : decode? (encode s) = some s := by
  have bytes : ByteArray.mk (encode s).toArray = (String.ofList s).toByteArray := by
    rw [String.toByteArray_ofList]
    exact congrArg ByteArray.mk List.data_toByteArray.symm
  have valid : (String.ofList s).toByteArray.IsValidUTF8 := (String.ofList s).isValidUTF8
  have spelled : String.fromUTF8? (String.ofList s).toByteArray = some (String.ofList s) :=
    dif_pos valid
  rw [decode?, bytes, spelled, Option.map_some, String.toList_ofList]

/-- Of two prefixes the one with fewer bytes is the shorter. -/
theorem prefix_of_size_le {p q s : List Char} (isPrefix : p <+: s) (other : q <+: s)
    (fewer : size q ≤ size p) : q <+: p := by
  rcases List.prefix_or_prefix_of_prefix isPrefix other with ⟨rest, rfl⟩ | shorter
  · cases rest with
    | nil => simp
    | cons c rest =>
        have pos := c.utf8Size_pos
        simp only [size_append, size] at fewer
        omega
  · exact shorter

/-! ## Boundaries -/

theorem isBoundary_append (a b : List UInt8) (i : Nat) :
    isBoundary (a ++ b) (a.length + i) = isBoundary b i := by
  have last : (a.length + i == (a ++ b).length) = (i == b.length) := by
    rw [Bool.eq_iff_iff, beq_iff_eq, beq_iff_eq, List.length_append, Nat.add_left_cancel_iff]
  rw [isBoundary, List.getElem?_append_right (Nat.le_add_right _ _), Nat.add_sub_cancel_left, last,
    isBoundary]

/-- Within a character only its start is a boundary. -/
theorem isBoundary_within {c : Char} {i : Nat} (within : i < c.utf8Size) (rest : List UInt8) :
    isBoundary (String.utf8EncodeChar c ++ rest) i = true ↔ i = 0 := by
  have inside : i < (String.utf8EncodeChar c).length := by rwa [String.length_utf8EncodeChar]
  simp [isBoundary, List.getElem?_append_left inside, List.getElem?_eq_getElem inside,
    UInt8.isUTF8FirstByte_getElem_utf8EncodeChar]

/-- The boundaries of a text are where its prefixes end. -/
theorem isBoundary_encode_iff (s : List Char) (i : Nat) :
    isBoundary (encode s) i = true ↔ ∃ p, p <+: s ∧ size p = i := by
  induction s generalizing i with
  | nil =>
      have empty : isBoundary (encode []) i = (i == 0) := by simp [encode, isBoundary]
      rw [empty, beq_iff_eq]
      constructor
      · rintro rfl
        exact ⟨[], List.nil_prefix, rfl⟩
      · rintro ⟨p, isPrefix, rfl⟩
        rw [List.prefix_nil.mp isPrefix]
        rfl
  | cons c rest ih =>
      have bytes : encode (c :: rest) = String.utf8EncodeChar c ++ encode rest := List.flatMap_cons
      have pos := c.utf8Size_pos
      rw [bytes]
      rcases Nat.lt_or_ge i c.utf8Size with within | behind
      · rw [isBoundary_within within]
        constructor
        · rintro rfl
          exact ⟨[], List.nil_prefix, rfl⟩
        · rintro ⟨p, isPrefix, ends⟩
          cases p with
          | nil => exact ends.symm
          | cons d p =>
              obtain ⟨rfl, -⟩ := List.cons_prefix_cons.mp isPrefix
              rw [size] at ends
              omega
      · obtain ⟨j, rfl⟩ : ∃ j, i = (String.utf8EncodeChar c).length + j :=
          ⟨i - c.utf8Size, by rw [String.length_utf8EncodeChar]; omega⟩
        rw [isBoundary_append, ih, String.length_utf8EncodeChar]
        constructor
        · rintro ⟨p, isPrefix, ends⟩
          exact ⟨c :: p, List.cons_prefix_cons.mpr ⟨rfl, isPrefix⟩, by rw [size, ends]⟩
        · rintro ⟨p, isPrefix, ends⟩
          cases p with
          | nil =>
              rw [size] at ends
              omega
          | cons d p =>
              obtain ⟨rfl, tail⟩ := List.cons_prefix_cons.mp isPrefix
              rw [size] at ends
              exact ⟨p, tail, by omega⟩

theorem isBoundary_encode_zero (s : List Char) : isBoundary (encode s) 0 = true :=
  (isBoundary_encode_iff s 0).mpr ⟨[], List.nil_prefix, rfl⟩

theorem boundaryUpTo_le (bytes : List UInt8) (limit : Nat) : boundaryUpTo bytes limit ≤ limit := by
  induction limit with
  | zero => exact Nat.le_refl 0
  | succ limit ih =>
      rw [boundaryUpTo]
      split
      · exact Nat.le_refl _
      · exact Nat.le_succ_of_le ih

theorem isBoundary_boundaryUpTo {bytes : List UInt8} (first : isBoundary bytes 0 = true)
    (limit : Nat) : isBoundary bytes (boundaryUpTo bytes limit) = true := by
  induction limit with
  | zero => exact first
  | succ limit ih =>
      rw [boundaryUpTo]
      split
      · next here => exact here
      · exact ih

theorem le_boundaryUpTo {bytes : List UInt8} {i limit : Nat} (boundary : isBoundary bytes i = true)
    (within : i ≤ limit) : i ≤ boundaryUpTo bytes limit := by
  induction limit with
  | zero => exact within
  | succ limit ih =>
      rw [boundaryUpTo]
      split
      · exact within
      · next notHere =>
          have apart : i ≠ limit + 1 := by
            rintro rfl
            exact notHere boundary
          exact ih (by omega)

/-! ## Truncated texts -/

/-- The text is the longest prefix of whole characters with at most `limit` bytes. -/
structure LongestWithin (limit : Nat) (s t : List Char) : Prop where
  isPrefix : t <+: s
  fits : (encode t).length ≤ limit
  longest : ∀ p, p <+: s → (encode p).length ≤ limit → p <+: t

/-- The bytes up to the last boundary spell the longest prefix. -/
theorem exists_decode? (limit : Nat) (s : List Char) :
    ∃ t, decode? ((encode s).take (boundaryUpTo (encode s) limit)) = some t ∧
      LongestWithin limit s t := by
  obtain ⟨t, isPrefix, ends⟩ :=
    (isBoundary_encode_iff s _).mp (isBoundary_boundaryUpTo (isBoundary_encode_zero s) limit)
  refine ⟨t, ?_, isPrefix, ?_, fun p other fits => ?_⟩
  · rw [← ends, take_encode_of_prefix isPrefix, decode?_encode]
  · rw [length_encode, ends]
    exact boundaryUpTo_le _ limit
  · rw [length_encode] at fits
    refine prefix_of_size_le isPrefix other ?_
    rw [ends]
    exact le_boundaryUpTo ((isBoundary_encode_iff s _).mpr ⟨p, other, rfl⟩) fits

theorem longestWithin_truncate (limit : Nat) (s : List Char) :
    LongestWithin limit s (truncate limit s) := by
  obtain ⟨t, spelled, longest⟩ := exists_decode? limit s
  rw [truncate]
  split
  · next fits =>
      exact ⟨List.prefix_refl s, by rwa [length_encode], fun p isPrefix _ => isPrefix⟩
  · rwa [spelled]

/-- The bytes of a cut text are never cut inside a character. -/
theorem decode?_boundaryUpTo {limit : Nat} {s : List Char} (cut : limit < (encode s).length) :
    decode? ((encode s).take (boundaryUpTo (encode s) limit)) = some (truncate limit s) := by
  have large : ¬ size s ≤ limit := by rwa [← length_encode, Nat.not_le]
  obtain ⟨t, spelled, -⟩ := exists_decode? limit s
  rw [truncate, if_neg large, spelled]
  rfl

namespace LongestWithin

variable {limit : Nat} {s t : List Char}

theorem eq_of_fits (longest : LongestWithin limit s t) (fits : (encode s).length ≤ limit) :
    t = s :=
  longest.isPrefix.eq_of_length_le (longest.longest s (List.prefix_refl s) fits).length_le

/-- A text that is cut lacks a character that would not have fitted. -/
theorem exists_next (longest : LongestWithin limit s t) (cut : limit < (encode s).length) :
    ∃ c : Char, limit < (encode t).length + c.utf8Size := by
  obtain ⟨rest, rfl⟩ := longest.isPrefix
  cases rest with
  | nil =>
      rw [List.append_nil] at cut
      exact absurd longest.fits (Nat.not_le.mpr cut)
  | cons c rest =>
      refine ⟨c, ?_⟩
      by_contra room
      have more : (encode (t ++ [c])).length ≤ limit := by
        rw [length_encode, size_append, ← length_encode]
        simpa [size] using room
      have longer := (longest.longest (t ++ [c]) (by simp) more).length_le
      rw [List.length_append, List.length_singleton] at longer
      exact Nat.not_succ_le_self _ longer

theorem eq_nil (longest : LongestWithin limit s t) {c : Char} {rest : List Char}
    (starts : s = c :: rest) (large : limit < c.utf8Size) : t = [] := by
  obtain ⟨behind, whole⟩ := longest.isPrefix
  cases t with
  | nil => rfl
  | cons d t =>
      rw [starts, List.cons_append] at whole
      obtain ⟨rfl, -⟩ := List.cons.inj whole
      have fits := longest.fits
      rw [length_encode, size] at fits
      omega

end LongestWithin

end Text.Utf8

/-! ## Logged statements -/

/-- The statement text that an event shows. -/
def Event.sql? : Event → Option String
  | .statement _ _ _ _ sql _ => some sql
  | .statementFailed _ _ sql _ => some sql
  | _ => none

namespace LogConfig

open Text.Utf8

theorem sql?_event {α : Type} (c : LogConfig) (operation sql : String) (args : List Value)
    (answer : Timed α) : (c.event operation sql args answer).sql? = some (c.shown sql) := by
  unfold event
  split <;> rfl

theorem shown_of_maxLength {c : LogConfig} {limit : Nat} (limited : c.maxLength = some limit)
    (sql : String) :
    c.shown sql =
      if (encode sql.toList).length ≤ limit then sql
      else String.ofList (truncate limit sql.toList ++ "...".toList) := by
  unfold shown
  rw [limited, length_encode]
  by_cases fits : size sql.toList ≤ limit
  · simp [fits, Nat.not_lt.mpr fits]
  · simp [fits, Nat.lt_of_not_le fits]

/-- **A logged statement is cut between characters, as late as the limit allows.** The cut text is the
longest prefix of whole characters that has no more bytes than the limit: the text itself when it fits,
and nothing when its first character does not. A text that does not fit is cut at a boundary of its
bytes, which spell the prefix, less than four bytes before the limit. The event of a statement shows
its text when that fits, and else the prefix and three dots. -/
theorem logged_text_truncated (limit : Nat) (sql : String) :
    let bytes := encode sql.toList
    let t := truncate limit sql.toList
    LongestWithin limit sql.toList t ∧
      (bytes.length ≤ limit → t = sql.toList) ∧
      (∀ c rest, sql.toList = c :: rest → limit < c.utf8Size → t = []) ∧
      (limit < bytes.length →
        isBoundary bytes (boundaryUpTo bytes limit) = true ∧
          decode? (bytes.take (boundaryUpTo bytes limit)) = some t ∧
          limit < (encode t).length + 4) ∧
      ∀ c : LogConfig, c.maxLength = some limit →
        ∀ (α : Type) (operation : String) (args : List Value) (answer : Timed α),
          (c.event operation sql args answer).sql? =
            some (if bytes.length ≤ limit then sql else String.ofList (t ++ "...".toList)) := by
  intro bytes t
  have longest : LongestWithin limit sql.toList t := longestWithin_truncate limit sql.toList
  refine ⟨longest, longest.eq_of_fits, fun c rest => longest.eq_nil, fun cut => ?_,
    fun c limited α operation args answer => ?_⟩
  · obtain ⟨c, next⟩ := longest.exists_next cut
    have near : limit < (encode t).length + 4 :=
      Nat.lt_of_lt_of_le next (Nat.add_le_add_left c.utf8Size_le_four _)
    exact ⟨isBoundary_boundaryUpTo (isBoundary_encode_zero _) limit, decode?_boundaryUpTo cut, near⟩
  · rw [sql?_event, shown_of_maxLength limited]

/-- A limit inside the last character, one behind it, and one inside the first. -/
theorem accentedText_cut :
    let c : LogConfig := { default with maxLength := some 8 }
    let answer : Timed Nat := ⟨.ok 1, ⟨0⟩, ⟨0⟩⟩
    (8 < (encode "SELECT é".toList).length ∧
        decode? ((encode "SELECT é".toList).take 7) = some (truncate 8 "SELECT é".toList)) ∧
      (c.maxLength = some 8 ∧
        (c.event "query" "SELECT é" [] answer).sql? = some "SELECT ...") ∧
      ((encode "SELECT é".toList).length ≤ 9 ∧
        truncate 9 "SELECT é".toList = "SELECT é".toList) ∧
      "é;".toList = 'é' :: [';'] ∧ 1 < Char.utf8Size 'é' ∧ truncate 1 "é;".toList = [] := by
  intro c answer
  have cut : 8 < (encode "SELECT é".toList).length := by decide
  have fits : (encode "SELECT é".toList).length ≤ 9 := by decide
  have boundary : boundaryUpTo (encode "SELECT é".toList) 8 = 7 := by decide
  have bytes : (encode "SELECT é".toList).take 7 = encode "SELECT ".toList := by decide
  obtain ⟨-, -, -, spelled, logged⟩ := logged_text_truncated 8 "SELECT é"
  obtain ⟨-, whole, -⟩ := logged_text_truncated 9 "SELECT é"
  obtain ⟨-, -, nothing, -⟩ := logged_text_truncated 1 "é;"
  have decoded := (spelled cut).2.1
  have event := logged c rfl Nat "query" [] answer
  rw [boundary] at decoded
  have shown : truncate 8 "SELECT é".toList = "SELECT ".toList := by
    have read := decode?_encode "SELECT ".toList
    rw [← bytes, decoded] at read
    exact Option.some.inj read
  rw [if_neg (Nat.not_le.mpr cut), shown] at event
  exact ⟨⟨cut, decoded⟩, ⟨rfl, event.trans (by decide)⟩, ⟨fits, whole fits⟩, by decide, by decide,
    nothing 'é' [';'] (by decide) (by decide)⟩

end LogConfig

end QueryBind
