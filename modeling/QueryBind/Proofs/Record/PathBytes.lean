/-
# QueryBind.Proofs.Record.PathBytes — the bytes of a path

A byte of a path's word is read by shifting it down and masking it (`FieldPath.byte`), and written by
masking it out and putting the new one in (`FieldPath.setByte`).

* Reading a byte that was written gives it back, and the other bytes are as before (`byte_setByte`).
* A word is its eight bytes (`eq_of_byte_eq`), and they are the digits of the packed number
  (`byte_eq`, `pack_digit`).
* So the word of a list of indices is the word of terminators with one byte written for each index
  (`ofIndices_eq_fill`), and reading a path takes its bytes up to the first terminator
  (`indices_eq_takeWhile`).

An index is never the terminator, so `words_encode_indices` loses no index and takes none for the
end.
-/
import QueryBind.Proofs.Record.FieldPath

namespace QueryBind

set_option autoImplicit false

namespace FieldPath

/-- The byte of a level, shifted down and masked. -/
def byte (p : FieldPath) (level : Nat) : Nat :=
  (p.raw >>> UInt64.ofNat (8 * level) &&& UInt64.ofNat terminator).toNat

/-- The path with the byte of a level masked out and an index put in its place. -/
def setByte (p : FieldPath) (level index : Nat) : FieldPath :=
  ⟨p.raw &&& ~~~(UInt64.ofNat terminator <<< UInt64.ofNat (8 * level)) |||
    UInt64.ofNat index <<< UInt64.ofNat (8 * level)⟩

/-! ## Bits -/

theorem toNat_ofNat_byte {n : Nat} (small : n < 256) : (UInt64.ofNat n).toNat = n :=
  UInt64.toNat_ofNat_of_lt' (by simp only [UInt64.size]; omega)

theorem testBit_terminator (k : Nat) : terminator.testBit k = decide (k < 8) :=
  Nat.testBit_two_pow_sub_one 8 k

/-- A byte has no bit past the eighth. -/
theorem testBit_past {n : Nat} (small : n < 256) {k : Nat} (past : 8 ≤ k) : n.testBit k = false :=
  Nat.testBit_lt_two_pow (Nat.lt_of_lt_of_le small (Nat.pow_le_pow_right Nat.two_pos past))

theorem testBit_not (word : UInt64) {k : Nat} (within : k < 64) :
    (~~~word).toNat.testBit k = !word.toNat.testBit k := by
  have bits := BitVec.getLsbD_not (x := word.toBitVec) (i := k)
  rwa [decide_eq_true within, Bool.true_and] at bits

section Level

variable {p : FieldPath} {level : Nat} (inside : level < 8)

include inside

theorem toNat_shift_mod : (UInt64.ofNat (8 * level)).toNat % 64 = 8 * level := by
  rw [toNat_ofNat_byte (by omega), Nat.mod_eq_of_lt (by omega)]

theorem testBit_shiftLeft (word : UInt64) {k : Nat} (within : k < 64) :
    (word <<< UInt64.ofNat (8 * level)).toNat.testBit k =
      (decide (8 * level ≤ k) && word.toNat.testBit (k - 8 * level)) := by
  rw [UInt64.toNat_shiftLeft, toNat_shift_mod inside, Nat.testBit_mod_two_pow,
    Nat.testBit_shiftLeft, decide_eq_true within, Bool.true_and]

theorem testBit_byte (k : Nat) :
    (p.byte level).testBit k = (decide (k < 8) && p.raw.toNat.testBit (8 * level + k)) := by
  rw [byte, UInt64.toNat_and, UInt64.toNat_shiftRight, toNat_shift_mod inside,
    toNat_ofNat_byte (by decide), Nat.testBit_and, Nat.testBit_shiftRight, testBit_terminator,
    Bool.and_comm]

theorem testBit_setByte {index : Nat} (small : index < 256) {k : Nat} (within : k < 64) :
    (p.setByte level index).raw.toNat.testBit k =
      if k / 8 = level then index.testBit (k % 8) else p.raw.toNat.testBit k := by
  simp only [setByte, UInt64.toNat_or, UInt64.toNat_and, Nat.testBit_or, Nat.testBit_and,
    testBit_not _ within, testBit_shiftLeft inside _ within, toNat_ofNat_byte small,
    toNat_ofNat_byte (show terminator < 256 by decide), testBit_terminator]
  by_cases here : k / 8 = level
  · have above : 8 * level ≤ k := by omega
    have below : k - 8 * level < 8 := by omega
    have place : k % 8 = k - 8 * level := by omega
    simp [here, above, below, place]
  · rw [if_neg here]
    by_cases above : 8 * level ≤ k
    · have past : 8 ≤ k - 8 * level := by omega
      simp [above, testBit_past small past, past]
    · simp [above]

/-! ## Bytes -/

/-- The byte of a level is that digit of the word. -/
theorem byte_eq : p.byte level = p.raw.toNat / 256 ^ level % 256 := by
  have width : 256 ^ level = 2 ^ (8 * level) := (Nat.pow_mul 2 8 level).symm
  refine Nat.eq_of_testBit_eq fun k => ?_
  rw [testBit_byte inside, width, Nat.testBit_mod_two_pow _ 8, Nat.testBit_div_two_pow,
    Nat.add_comm k]

/-- The byte that was written is the index, and the other bytes are as before. -/
theorem byte_setByte {index : Nat} (small : index < 256) {other : Nat} (inside' : other < 8) :
    (p.setByte level index).byte other = if other = level then index else p.byte other := by
  refine Nat.eq_of_testBit_eq fun k => ?_
  rw [testBit_byte inside']
  by_cases low : k < 8
  · have place : (8 * other + k) / 8 = other := by omega
    have bit : (8 * other + k) % 8 = k := by omega
    rw [testBit_setByte inside small (by omega), place, bit, decide_eq_true low, Bool.true_and]
    split
    · rfl
    · rw [testBit_byte inside', decide_eq_true low, Bool.true_and]
  · rw [decide_eq_false low, Bool.false_and]
    split
    · exact (testBit_past small (Nat.le_of_not_lt low)).symm
    · rw [testBit_byte inside', decide_eq_false low, Bool.false_and]

end Level

/-- A word is its eight bytes. -/
theorem eq_of_byte_eq {p q : FieldPath} (bytes : ∀ level < 8, p.byte level = q.byte level) :
    p = q := by
  have words : p.raw.toNat = q.raw.toNat := by
    refine Nat.eq_of_testBit_eq fun k => ?_
    by_cases within : k < 64
    · have inside : k / 8 < 8 := by omega
      have place : 8 * (k / 8) + k % 8 = k := Nat.div_add_mod k 8
      have bit := congrArg (·.testBit (k % 8)) (bytes (k / 8) inside)
      simpa [testBit_byte inside, place, Nat.mod_lt] using bit
    · have past (n : UInt64) : n.toNat.testBit k = false :=
        Nat.testBit_lt_two_pow
          (Nat.lt_of_lt_of_le n.toNat_lt (Nat.pow_le_pow_right Nat.two_pos (by omega)))
      rw [past, past]
  exact congrArg FieldPath.mk (UInt64.toNat_inj.mp words)

/-! ## Writing indices -/

/-- The path without an index: all its bytes are terminators. -/
def blank : FieldPath := ⟨0xFFFFFFFFFFFFFFFF⟩

theorem byte_blank : ∀ level < 8, blank.byte level = terminator := by decide

/-- The path with indices written to its bytes from a level on, one after the other. -/
def fill : (level : Nat) → List Nat → FieldPath → FieldPath
  | _, [], p => p
  | level, i :: rest, p => fill (level + 1) rest (p.setByte level i)

theorem byte_fill {indices : List Nat} {p : FieldPath} {level : Nat}
    (small : ∀ i ∈ indices, i < 256) (room : level + indices.length ≤ 8) {other : Nat}
    (inside : other < 8) : (fill level indices p).byte other =
      if other < level then p.byte other else indices[other - level]?.getD (p.byte other) := by
  induction indices generalizing level p with
  | nil => simp [fill]
  | cons i rest ih =>
      obtain ⟨first, others⟩ := List.forall_mem_cons.mp small
      rw [List.length_cons] at room
      rw [fill, ih others (by omega), byte_setByte (by omega) first inside]
      rcases Nat.lt_trichotomy other level with below | rfl | above
      · simp [below, Nat.lt_succ_of_lt below, Nat.ne_of_lt below]
      · simp
      · have place : other - level = (other - (level + 1)) + 1 := by omega
        rw [if_neg (by omega), if_neg (by omega), if_neg (by omega), place,
          List.getElem?_cons_succ]

/-- The digits of a packed number, the lowest first. -/
theorem pack_digit (width : Nat) {indices : List Nat} (small : ∀ i ∈ indices, i < terminator)
    {level : Nat} (inside : level < width) :
    pack width indices / 256 ^ level % 256 = indices[level]?.getD terminator := by
  induction width generalizing indices level with
  | zero => omega
  | succ width ih =>
      cases indices with
      | nil =>
          cases level with
          | zero => simp [pack, terminator]
          | succ level =>
              have none_small : ∀ i ∈ ([] : List Nat), i < terminator := List.forall_mem_nil _
              have onward := ih none_small (Nat.lt_of_succ_lt_succ inside)
              have higher : (terminator + 256 * pack width []) / 256 = pack width [] := by
                simp only [terminator]; omega
              rw [pack, Nat.pow_succ', ← Nat.div_div_eq_div_mul, higher, onward]
              rfl
      | cons i rest =>
          obtain ⟨first, others⟩ := List.forall_mem_cons.mp small
          simp only [terminator] at first
          cases level with
          | zero => simp [pack]; omega
          | succ level =>
              have onward := ih others (Nat.lt_of_succ_lt_succ inside)
              have higher : (i + 256 * pack width rest) / 256 = pack width rest := by omega
              rw [pack, Nat.pow_succ', ← Nat.div_div_eq_div_mul, higher, onward]
              rfl

section Made

variable {indices : List Nat} {path : FieldPath} (made : ofIndices indices = .ok path)

include made

/-- The bytes of a path are its indices, and terminators past the last one. -/
theorem byte_ofIndices {level : Nat} (inside : level < 8) :
    path.byte level = indices[level]?.getD terminator := by
  obtain ⟨⟨-, -, small⟩, rfl⟩ := ofIndices_eq_ok_iff.mp made
  rw [byte_eq inside, toNat_pack small, pack_digit 8 small inside]

/-- The word of indices is the one of terminators with each index written to its level. -/
theorem ofIndices_eq_fill : path = fill 0 indices blank := by
  obtain ⟨⟨-, shallow, small⟩, -⟩ := ofIndices_eq_ok_iff.mp made
  simp only [maxDepth, terminator] at shallow small
  refine eq_of_byte_eq fun level inside => ?_
  rw [byte_ofIndices made inside, byte_fill
      (fun i member => Nat.lt_trans (small i member) (by decide)) (by omega) inside,
    if_neg (Nat.not_lt_zero level), byte_blank level inside, Nat.sub_zero]

end Made

/-! ## Reading indices -/

/-- Unpacking takes the digits before the first terminator. -/
theorem unpack_eq_takeWhile (width n : Nat) : unpack width n =
    ((List.range width).map fun level => n / 256 ^ level % 256).takeWhile (· ≠ terminator) := by
  induction width generalizing n with
  | zero => rfl
  | succ width ih =>
      have higher (level : Nat) : n / 256 ^ (level + 1) % 256 = n / 256 / 256 ^ level % 256 := by
        rw [Nat.pow_succ', Nat.div_div_eq_div_mul]
      simp only [unpack, ih, List.range_succ_eq_map, List.map_cons, List.map_map,
        Function.comp_def, Nat.succ_eq_add_one, higher, Nat.pow_zero, Nat.div_one,
        List.takeWhile_cons]
      by_cases ends : n % 256 = terminator <;> simp [ends]

/-- The indices of a path are its bytes before the first terminator. -/
theorem indices_eq_takeWhile (p : FieldPath) :
    p.indices = ((List.range 8).map p.byte).takeWhile (· ≠ terminator) := by
  have bytes : (List.range 8).map p.byte =
      (List.range 8).map fun level => p.raw.toNat / 256 ^ level % 256 :=
    List.map_congr_left fun level inside => byte_eq (List.mem_range.mp inside)
  rw [indices, unpack_eq_takeWhile, bytes]

/-- **A path is a faithful encoding of its indices.** The lists of one to seven indices below 255 have
a word, and no others do. The word, which comes from all ones by writing each index to the byte of
its level, has the indices in its lowest bytes and 255 above; reading its bytes up to the first 255
gives back the list and its length; and no other list has that word. -/
theorem words_encode_indices (indices : List Nat) :
    ((∃ path, ofIndices indices = .ok path) ↔
      1 ≤ indices.length ∧ indices.length ≤ 7 ∧ ∀ i ∈ indices, i < 255) ∧
    ∀ path, ofIndices indices = .ok path →
      path.indices = indices ∧ path.depth = indices.length ∧
      (∀ level i, indices[level]? = some i → path.byte level = i) ∧
      (∀ level, indices.length ≤ level → level < 8 → path.byte level = 0xFF) ∧
      path = fill 0 indices ⟨0xFFFFFFFFFFFFFFFF⟩ ∧
      path.indices = ((List.range 8).map path.byte).takeWhile (· ≠ 0xFF) ∧
      ∀ others other, ofIndices others = .ok other → other.raw = path.raw → others = indices := by
  constructor
  · simp only [ofIndices_eq_ok_iff, exists_and_left, exists_eq, and_true]
    exact and_congr_left fun _ => List.length_pos_iff.symm
  · intro path made
    have shallow := (ofIndices_eq_ok_iff.mp made).1.2.1
    simp only [maxDepth] at shallow
    have back := indices_ofIndices made
    refine ⟨back, congrArg List.length back, fun level i there => ?_, fun level past inside => ?_,
      ofIndices_eq_fill made, indices_eq_takeWhile path, fun others other made' same => ?_⟩
    · have inside := (List.getElem?_eq_some_iff.mp there).1
      rw [byte_ofIndices made (by omega), there, Option.getD_some]
    · rw [byte_ofIndices made inside, List.getElem?_eq_none past]
      rfl
    · obtain rfl : other = path := congrArg FieldPath.mk same
      exact (indices_ofIndices made').symm.trans back

/-- The word of the third field of a record that is a second field. -/
theorem twoLevels_word :
    ofIndices [1, 2] = .ok ⟨0xFFFFFFFFFFFF0201⟩ ∧
      (FieldPath.mk 0xFFFFFFFFFFFF0201).indices = [1, 2] ∧
      (FieldPath.mk 0xFFFFFFFFFFFF0201).depth = 2 ∧
      ∀ others other, ofIndices others = .ok other → other.raw = 0xFFFFFFFFFFFF0201 →
        others = [1, 2] := by
  have made : ofIndices [1, 2] = .ok ⟨0xFFFFFFFFFFFF0201⟩ := by decide
  obtain ⟨indices, depth, -, -, -, -, unique⟩ := (words_encode_indices [1, 2]).2 _ made
  exact ⟨made, indices, depth, unique⟩

end FieldPath

end QueryBind
