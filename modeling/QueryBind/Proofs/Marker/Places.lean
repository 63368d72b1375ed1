/-
# QueryBind.Proofs.Marker.Places — which arguments the markers of a clause stand for

`Symbol.offsets` are the offsets of the places of a symbol list, in order. The markers of a clause
stand for consecutive arguments (`offsets_readFrom`), and so do the places of an expanded list
(`offsets_expandFrom`). Reading two clauses written one after the other is reading the first and
then the second, unless the seam makes an escape (`readFrom_append`).
-/
import Mathlib.Data.List.DropRight
import QueryBind.Query.Membership

namespace QueryBind

set_option autoImplicit false

/-! ## Offsets -/

namespace Symbol

/-- The offsets of the places, from left to right. -/
def offsets (symbols : List Symbol) : List Nat := symbols.filterMap offset?

@[simp] theorem offsets_char (c : Char) (symbols : List Symbol) :
    offsets (.char c :: symbols) = offsets symbols := rfl

@[simp] theorem offsets_place (k : Nat) (symbols : List Symbol) :
    offsets (.place k :: symbols) = k :: offsets symbols := rfl

@[simp] theorem offsets_append (a b : List Symbol) : offsets (a ++ b) = offsets a ++ offsets b :=
  List.filterMap_append

@[simp] theorem offsets_ofText (s : List Char) : offsets (ofText s) = [] := by
  induction s with
  | nil => rfl
  | cons c rest ih => exact ih

theorem offsets_map_shift (n : Nat) (symbols : List Symbol) :
    offsets (symbols.map (shift n)) = (offsets symbols).map (n + ·) := by
  induction symbols with
  | nil => rfl
  | cons s rest ih =>
      cases s with
      | char c => simpa [shift] using ih
      | place k => simpa [shift] using ih

theorem countP_isPlace (symbols : List Symbol) :
    symbols.countP isPlace = (offsets symbols).length := by
  induction symbols with
  | nil => rfl
  | cons s rest ih =>
      cases s with
      | char c => simpa [isPlace] using ih
      | place k => simpa [List.countP_cons, isPlace] using ih

/-! ## Rendering -/

@[simp] theorem render_append (numbered : Bool) (start : Nat) (a b : List Symbol) :
    render numbered start (a ++ b) = render numbered start a ++ render numbered start b :=
  List.flatMap_append

@[simp] theorem render_ofText (numbered : Bool) (start : Nat) (s : List Char) :
    render numbered start (ofText s) = s := by
  induction s with
  | nil => rfl
  | cons c rest ih => exact congrArg (c :: ·) ih

theorem render_char (numbered : Bool) (start : Nat) (c : Char) (symbols : List Symbol) :
    render numbered start (.char c :: symbols) = c :: render numbered start symbols := rfl

/-- Shifted places are numbered as if that many arguments stood before the first. -/
@[simp] theorem render_map_shift (numbered : Bool) (start n : Nat) (symbols : List Symbol) :
    render numbered start (symbols.map (shift n)) = render numbered (start + n) symbols := by
  rw [render, List.flatMap_map, render]
  congr 1
  funext s
  cases s with
  | char c => rfl
  | place k => simp [shift, text, Nat.add_assoc]

end Symbol

namespace Marker

open QueryBind.Symbol Text

/-! ## Reading -/

/-- No escape is made where `a` ends and `b` begins. -/
def Seamless (a b : List Char) : Prop := a.getLast? = some '\\' → b.head? ≠ some '?'

theorem readFrom_eq_map_shift (next : Nat) (clause : List Char) :
    readFrom next clause = (read clause).map (shift next) := by
  have general : ∀ (clause : List Char) (m n : Nat),
      readFrom (m + n) clause = (readFrom n clause).map (shift m) := by
    intro clause m n
    fun_induction readFrom n clause generalizing m with
    | case1 => rfl
    | case2 n rest ih => simp [readFrom, shift, ih]
    | case3 n rest ih => simp [readFrom, shift, ← ih, Nat.add_assoc]
    | case4 n c rest _ _ ih => simp [readFrom, shift, ih]
  exact general clause next 0

theorem count_eq_length_offsets (clause : List Char) :
    count clause = (offsets (read clause)).length := countP_isPlace _

theorem offsets_readFrom (next : Nat) (clause : List Char) :
    offsets (readFrom next clause) = List.range' next (count clause) := by
  have consecutive : ∀ (clause : List Char) (n : Nat),
      offsets (readFrom n clause) = List.range' n (offsets (readFrom n clause)).length := by
    intro clause n
    fun_induction readFrom n clause with
    | case1 => rfl
    | case2 n rest ih => simpa using ih
    | case3 n rest ih => simpa [List.range'_succ] using ih
    | case4 n c rest _ _ ih => simpa using ih
  rw [consecutive, readFrom_eq_map_shift, offsets_map_shift, List.length_map,
    count_eq_length_offsets]

theorem offsets_read (clause : List Char) : offsets (read clause) = List.range (count clause) := by
  rw [read, offsets_readFrom, List.range_eq_range']

@[simp] theorem count_nil : count [] = 0 := rfl

@[simp] theorem count_escape (rest : List Char) : count ('\\' :: '?' :: rest) = count rest := by
  simp [count, read, readFrom, isPlace]

@[simp] theorem count_marker (rest : List Char) : count ('?' :: rest) = count rest + 1 := by
  rw [count_eq_length_offsets, read, readFrom, offsets_place, offsets_readFrom,
    List.length_cons, List.length_range']

/-- A character that is no marker and starts no escape is read as itself. -/
theorem readFrom_char {c : Char} {rest : List Char} (notMarker : c ≠ '?')
    (seamless : Seamless [c] rest) (next : Nat) :
    readFrom next (c :: rest) = .char c :: readFrom next rest := by
  rw [readFrom]
  · rintro tail rfl rfl
    exact seamless rfl rfl
  · exact notMarker

theorem count_char {c : Char} {rest : List Char} (notMarker : c ≠ '?')
    (seamless : Seamless [c] rest) : count (c :: rest) = count rest := by
  simp [count, read, readFrom_char notMarker seamless, isPlace]

theorem Seamless.tail {c : Char} {a b : List Char} (seamless : Seamless (c :: a) b) :
    Seamless a b := by
  cases a with
  | nil => exact fun last => by simp at last
  | cons d rest => simpa [Seamless] using seamless

theorem seamless_of_noEscape {c : Char} {rest : List Char}
    (noEscape : ∀ tail, c = '\\' → rest = '?' :: tail → False) : Seamless [c] rest := by
  rintro last head
  obtain ⟨tail, rfl⟩ := List.head?_eq_some_iff.1 head
  exact noEscape tail (by simpa using last) rfl

/-- The first character of a text starts no escape at the text's end either. -/
theorem Seamless.append {c : Char} {rest b : List Char} (inside : Seamless [c] rest)
    (ends : Seamless (c :: rest) b) : Seamless [c] (rest ++ b) := by
  cases rest with
  | nil => exact ends
  | cons d tail => exact inside

theorem readFrom_append {a b : List Char} (seamless : Seamless a b) (next : Nat) :
    readFrom next (a ++ b) = readFrom next a ++ readFrom (next + count a) b := by
  fun_induction readFrom next a with
  | case1 => rfl
  | case2 n rest ih => simp [readFrom, ih seamless.tail.tail]
  | case3 n rest ih => simp [readFrom, ih seamless.tail, Nat.add_assoc, Nat.add_comm 1]
  | case4 n c rest noEscape notMarker ih =>
      -- the character starts an escape neither inside `a` nor at the seam
      have inside : Seamless [c] rest := seamless_of_noEscape noEscape
      rw [List.cons_append, readFrom_char notMarker (inside.append seamless), ih seamless.tail,
        count_char notMarker inside, List.cons_append]

theorem read_append {a b : List Char} (seamless : Seamless a b) :
    read (a ++ b) = read a ++ (read b).map (shift (count a)) := by
  rw [read, readFrom_append seamless, readFrom_eq_map_shift (0 + count a), Nat.zero_add]
  rfl

theorem count_append {a b : List Char} (seamless : Seamless a b) :
    count (a ++ b) = count a + count b := by
  simp [count_eq_length_offsets, read_append seamless, offsets_map_shift]

/-- A text without question marks is read as it is. -/
theorem read_eq_ofText {s : List Char} (free : '?' ∉ s) : read s = ofText s := by
  induction s with
  | nil => rfl
  | cons c rest ih =>
      obtain ⟨notMarker, restFree⟩ := List.ne_and_not_mem_of_not_mem_cons free
      have seamless : Seamless [c] rest := fun _ head => restFree (List.mem_of_head? head)
      rw [read, readFrom_char (Ne.symm notMarker) seamless, ← read, ih restFree]
      rfl

theorem count_eq_zero {s : List Char} (free : '?' ∉ s) : count s = 0 := by
  simp [count_eq_length_offsets, read_eq_ofText free]

theorem hasMarker_iff (clause : List Char) : hasMarker clause = true ↔ 0 < count clause := by
  fun_induction hasMarker clause with
  | case1 => simp
  | case2 rest ih => simpa using ih
  | case3 rest => simp
  | case4 c rest noEscape notMarker ih =>
      rw [ih, count_char notMarker (seamless_of_noEscape noEscape)]

/-! ## Trimming -/

theorem blank_not_mark {c : Char} (blank : isBlank c = true) : c ≠ '?' ∧ c ≠ '\\' := by
  constructor <;> rintro rfl <;> revert blank <;> decide

theorem count_trimStart (s : List Char) : count (trimStart s) = count s := by
  induction s with
  | nil => rfl
  | cons c rest ih =>
      by_cases blank : isBlank c = true
      · obtain ⟨notMarker, notEscape⟩ := blank_not_mark blank
        have seamless : Seamless [c] rest := fun last => absurd (by simpa using last) notEscape
        rw [count_char notMarker seamless, ← ih]
        simp [trimStart, blank]
      · simp [trimStart, blank]

theorem count_trimEnd (s : List Char) : count (trimEnd s) = count s := by
  have split : s = trimEnd s ++ s.rtakeWhile isBlank :=
    List.rdropWhile_append_rtakeWhile.symm
  have free : '?' ∉ s.rtakeWhile isBlank := fun member =>
    (blank_not_mark (List.mem_rtakeWhile_imp member)).1 rfl
  have seamless : Seamless (trimEnd s) (s.rtakeWhile isBlank) :=
    fun _ head => free (List.mem_of_head? head)
  conv_rhs => rw [split, count_append seamless, count_eq_zero free, Nat.add_zero]

@[simp] theorem count_trim (s : List Char) : count (trim s) = count s := by
  rw [trim, count_trimEnd, count_trimStart]

@[simp] theorem hasMarker_trim (s : List Char) : hasMarker (trim s) = hasMarker s := by
  rw [Bool.eq_iff_iff, hasMarker_iff, hasMarker_iff, count_trim]

/-! ## Expanded lists -/

theorem offsets_placeList (first count group : Nat) :
    offsets (placeList first count group) = List.range' first count := by
  have single : ∀ i, offsets
      ((if i = 0 then [] else [Symbol.char ',']) ++
        (if 1 < group ∧ i % group = 0 then [Symbol.char '('] else []) ++
        [Symbol.place (first + i)] ++
        (if 1 < group ∧ (i + 1) % group = 0 then [Symbol.char ')'] else [])) = [first + i] := by
    intro i
    simp only [offsets_append]
    split <;> split <;> split <;> rfl
  have flat : ∀ indices : List Nat, offsets (indices.flatMap fun i =>
      (if i = 0 then [] else [Symbol.char ',']) ++
        (if 1 < group ∧ i % group = 0 then [Symbol.char '('] else []) ++
        [Symbol.place (first + i)] ++
        (if 1 < group ∧ (i + 1) % group = 0 then [Symbol.char ')'] else [])) =
      indices.map (first + ·) := by
    intro indices
    induction indices with
    | nil => rfl
    | cons i rest ih => rw [List.flatMap_cons, offsets_append, single, ih]; rfl
  rw [placeList, flat, List.range'_eq_map_range]

theorem offsets_expandFrom (first group total : Nat) (clause : List Char) :
    offsets (expandFrom first group total clause) =
      if hasMarker clause then List.range' first total else [] := by
  fun_induction hasMarker clause with
  | case1 => rfl
  | case2 rest ih => simpa [expandFrom] using ih
  | case3 rest => simp [expandFrom, offsets_placeList]
  | case4 c rest noEscape notMarker ih => simpa [expandFrom] using ih

end Marker

namespace Membership

open QueryBind.Symbol Marker Text

/-- The arguments reach: the left side takes no more than there are, and a marker on the right
takes the others. -/
def Reaches (clause : List Char) (total : Nat) : Prop :=
  match ofClause? clause with
  | some m => Marker.count m.left ≤ total ∧ hasMarker m.right = true
  | none => hasMarker clause = true

instance (clause : List Char) (total : Nat) : Decidable (Reaches clause total) :=
  match h : ofClause? clause with
  | some m =>
      decidable_of_iff (Marker.count m.left ≤ total ∧ hasMarker m.right = true)
        (by simp only [Reaches, h])
  | none => decidable_of_iff (hasMarker clause = true) (by simp only [Reaches, h])

theorem offsets_clauseSymbols {clause : List Char} {total : Nat} (reaches : Reaches clause total) :
    offsets (clauseSymbols clause total) = List.range total := by
  unfold Reaches at reaches
  unfold clauseSymbols
  split
  · rename_i m cut
    rw [cut] at reaches
    obtain ⟨taken, marked⟩ := reaches
    simp only [symbols, offsets_append, offsets_ofText, List.append_nil, offsets_read,
      offsets_expandFrom, count_trim, hasMarker_trim, marked, if_true]
    calc List.range (Marker.count m.left) ++
          List.range' (Marker.count m.left) (total - Marker.count m.left)
        = List.range' 0 (Marker.count m.left + (total - Marker.count m.left)) := by
          rw [List.range_eq_range', ← List.range'_append_1, Nat.zero_add]
      _ = List.range total := by rw [Nat.add_sub_cancel' taken, List.range_eq_range']
  · rename_i uncut
    rw [uncut] at reaches
    simp only [offsets_expandFrom, reaches, if_true, List.range_eq_range']

end Membership

end QueryBind
