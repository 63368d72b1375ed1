/-
# QueryBind.Proofs.Record.FieldPath — the packed word keeps the indices

A list of at most seven indices below 255 is packed into eight bytes, so a terminator follows the
last index and unpacking stops there: the word of a list gives the list back.
-/
import Mathlib.Algebra.Ring.Nat
import QueryBind.Record.FieldPath

namespace QueryBind

set_option autoImplicit false

namespace FieldPath

theorem pack_lt (width : Nat) (indices : List Nat) (small : ∀ i ∈ indices, i < terminator) :
    pack width indices < 256 ^ width := by
  induction width generalizing indices with
  | zero => simp [pack]
  | succ width ih =>
      cases indices with
      | nil =>
          have rest := ih [] (by simp)
          simp only [pack, terminator, pow_succ]
          omega
      | cons i indices =>
          have rest := ih indices fun j member => small j (List.mem_cons_of_mem i member)
          have first : i < terminator := small i List.mem_cons_self
          simp only [pack, pow_succ]
          simp only [terminator] at first
          omega

/-- Unpacking stops at the terminator after the last index. -/
theorem unpack_pack (width : Nat) (indices : List Nat) (room : indices.length < width)
    (small : ∀ i ∈ indices, i < terminator) : unpack width (pack width indices) = indices := by
  induction width generalizing indices with
  | zero => simp at room
  | succ width ih =>
      cases indices with
      | nil =>
          have last : (terminator + 256 * pack width []) % 256 = terminator := by
            simp only [terminator]; omega
          simp only [pack, unpack, last, if_true]
      | cons i indices =>
          have first : i < terminator := small i List.mem_cons_self
          have byte : (i + 256 * pack width indices) % 256 = i := by
            simp only [terminator] at first; omega
          have higher : (i + 256 * pack width indices) / 256 = pack width indices := by
            simp only [terminator] at first; omega
          have rest := ih indices (by simpa using room)
            fun j member => small j (List.mem_cons_of_mem i member)
          simp only [pack, unpack, byte, higher, rest, if_neg (Nat.ne_of_lt first)]

theorem lt_of_mem_unpack (width n : Nat) : ∀ i ∈ unpack width n, i < terminator := by
  induction width generalizing n with
  | zero => simp [unpack]
  | succ width ih =>
      intro i member
      simp only [unpack] at member
      split at member
      · simp at member
      · next more =>
          rcases List.mem_cons.mp member with rfl | member
          · simp only [terminator] at more ⊢; omega
          · exact ih _ i member

theorem length_unpack_le (width n : Nat) : (unpack width n).length ≤ width := by
  induction width generalizing n with
  | zero => simp [unpack]
  | succ width ih =>
      simp only [unpack]
      split
      · simp
      · simpa using ih (n / 256)

/-- One to seven indices below the terminator have a word, the packed one, and no others do. -/
theorem ofIndices_eq_ok_iff {indices : List Nat} {path : FieldPath} :
    ofIndices indices = .ok path ↔
      (indices ≠ [] ∧ indices.length ≤ maxDepth ∧ ∀ i ∈ indices, i < terminator) ∧
        path = ⟨UInt64.ofNat (pack 8 indices)⟩ := by
  have large : (indices.find? fun i => decide (terminator ≤ i)) = none ↔
      ∀ i ∈ indices, i < terminator := by simp
  simp only [ofIndices, List.isEmpty_iff, ← large]
  split
  · next empty => simp [empty]
  · next some_index =>
      split
      · next deep => simp [Nat.not_le.mpr deep]
      · next shallow =>
          split
          · next i found => simp [found]
          · next small => simp [some_index, Nat.not_lt.mp shallow, small, eq_comm]

theorem toNat_pack {indices : List Nat} (small : ∀ i ∈ indices, i < terminator) :
    (UInt64.ofNat (pack 8 indices)).toNat = pack 8 indices :=
  UInt64.toNat_ofNat_of_lt' (by simpa using pack_lt 8 indices small)

/-- The word of a list of indices gives the list back. -/
theorem indices_ofIndices {indices : List Nat} {path : FieldPath}
    (made : ofIndices indices = .ok path) : path.indices = indices := by
  obtain ⟨⟨-, shallow, small⟩, rfl⟩ := ofIndices_eq_ok_iff.mp made
  rw [FieldPath.indices, toNat_pack small]
  exact unpack_pack 8 indices (by simp only [maxDepth] at shallow; omega) small

/-- One to seven indices below the terminator have a word. -/
theorem exists_ofIndices {indices : List Nat} (some_index : indices ≠ [])
    (shallow : indices.length ≤ maxDepth) (small : ∀ i ∈ indices, i < terminator) :
    ∃ path, ofIndices indices = .ok path :=
  ⟨_, ofIndices_eq_ok_iff.mpr ⟨⟨some_index, shallow, small⟩, rfl⟩⟩

/-- What follows the first indices of a path is the path of a field of the record they lead to. -/
theorem exists_ofIndices_of_append {path : FieldPath} {way rest : List Nat}
    (split : path.indices = way ++ rest) (deeper : way ≠ []) (further : rest ≠ []) :
    ∃ below, ofIndices rest = .ok below := by
  apply exists_ofIndices further
  · have total := length_unpack_le 8 path.raw.toNat
    change path.indices.length ≤ 8 at total
    have positive := List.length_pos_iff.mpr deeper
    simp only [split, List.length_append] at total
    simp only [maxDepth]
    omega
  · intro i member
    exact lt_of_mem_unpack 8 path.raw.toNat i
      (by change i ∈ path.indices; simp [split, member])

end FieldPath

end QueryBind
