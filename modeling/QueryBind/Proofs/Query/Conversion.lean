/-
# QueryBind.Proofs.Query.Conversion — what becomes of each character of a clause

A clause is read from left to right with one character of lookahead. Where it has been read up to a
place that is not inside an escape, what is to come of the next character can be said from the clause
alone (`convertAt`): a backslash with a question mark behind it goes, a question mark without a
backslash before it is the place of the argument whose number is how many such there were before, and
every other character stays. Read from such a place on, the rest of the clause is converted so
(`render_readFrom`), and a whole clause is.

Two texts may be converted one after the other, the second from where the first ended, unless an
escape is made at the seam (`render_read_append`). The texts that join clauses make none, so a list
of clauses is converted clause by clause (`convertEach`).
-/
import Mathlib.Algebra.Ring.Nat
import QueryBind.Proofs.Query.Numbering

namespace QueryBind

set_option autoImplicit false

open Fragment (Separates)

namespace Marker

/-! ## Places of a clause -/

/-- There is a question mark at the place, and no backslash right before it. -/
def isMarkerAt (clause : List Char) (i : Nat) : Bool :=
  clause[i]? == some '?' && (clause.take i).getLast? != some '\\'

/-- There is a backslash at the place, and a question mark right behind it. -/
def isEscapeAt (clause : List Char) (i : Nat) : Bool :=
  clause[i]? == some '\\' && clause[i + 1]? == some '?'

/-- How many markers there are before the place. -/
def markersBefore (clause : List Char) (i : Nat) : Nat := (List.range i).countP (isMarkerAt clause)

/-- What the character at the place is converted to, when the first argument has number `start`. -/
def convertAt (numbered : Bool) (start : Nat) (clause : List Char) (i : Nat) : List Char :=
  if isEscapeAt clause i then []
  else if isMarkerAt clause i then Dialect.placeText numbered (start + markersBefore clause i)
  else clause[i]?.toList

theorem markersBefore_succ (clause : List Char) (i : Nat) :
    markersBefore clause (i + 1) =
      markersBefore clause i + if isMarkerAt clause i then 1 else 0 := by
  simp [markersBefore, List.range_succ, List.countP_cons]

/-! ## One character -/

section Cut

variable {clause before rest : List Char} (numbered : Bool) (start : Nat)

/-- Both characters of an escape: the first goes, the second stays, and neither is counted. -/
theorem convertAt_escape (whole : before ++ '\\' :: '?' :: rest = clause) :
    convertAt numbered start clause before.length = [] ∧
      convertAt numbered start clause (before.length + 1) = ['?'] ∧
      markersBefore clause (before.length + 2) = markersBefore clause before.length := by
  subst whole
  have opens : isEscapeAt (before ++ '\\' :: '?' :: rest) before.length = true := by
    simp [isEscapeAt]
  have inside : isEscapeAt (before ++ '\\' :: '?' :: rest) (before.length + 1) = false := by
    simp [isEscapeAt]
  have backslash : isMarkerAt (before ++ '\\' :: '?' :: rest) before.length = false := by
    simp [isMarkerAt]
  have escaped : isMarkerAt (before ++ '\\' :: '?' :: rest) (before.length + 1) = false := by
    simp [isMarkerAt, List.take_append]
  refine ⟨by simp [convertAt, opens], by simp [convertAt, inside, escaped], ?_⟩
  simp [markersBefore_succ, backslash, escaped]

theorem convertAt_marker (whole : before ++ '?' :: rest = clause)
    (seamless : Seamless before ('?' :: rest)) :
    convertAt numbered start clause before.length =
        Dialect.placeText numbered (start + markersBefore clause before.length) ∧
      markersBefore clause (before.length + 1) = markersBefore clause before.length + 1 := by
  subst whole
  have notEscaped : before.getLast? ≠ some '\\' := fun last => seamless last rfl
  have noEscape : isEscapeAt (before ++ '?' :: rest) before.length = false := by simp [isEscapeAt]
  have marker : isMarkerAt (before ++ '?' :: rest) before.length = true := by
    simp [isMarkerAt, notEscaped]
  exact ⟨by simp [convertAt, noEscape, marker], by simp [markersBefore_succ, marker]⟩

theorem convertAt_char {c : Char} (whole : before ++ c :: rest = clause) (notMarker : c ≠ '?')
    (inside : Seamless [c] rest) :
    convertAt numbered start clause before.length = [c] ∧
      markersBefore clause (before.length + 1) = markersBefore clause before.length := by
  subst whole
  have noEscape : isEscapeAt (before ++ c :: rest) before.length = false := by
    simpa [isEscapeAt, Seamless, List.head?_eq_getElem?, List.getElem?_append_right] using inside
  have unmarked : isMarkerAt (before ++ c :: rest) before.length = false := by
    simp [isMarkerAt, notMarker]
  exact ⟨by simp [convertAt, noEscape, unmarked], by simp [markersBefore_succ, unmarked]⟩

end Cut

/-! ## Clauses -/

/-- Where a clause has been read up to a place that is not inside an escape, the rest is converted
character by character. -/
theorem render_readFrom (numbered : Bool) (start : Nat) {clause before rest : List Char} {next : Nat}
    (whole : before ++ rest = clause) (seamless : Seamless before rest)
    (counted : next = markersBefore clause before.length) :
    Symbol.render numbered start (readFrom next rest) =
        (List.range' before.length rest.length).flatMap (convertAt numbered start clause) ∧
      next + count rest = markersBefore clause clause.length := by
  -- the cases are those of `readFrom`; each goes on behind the characters it has read
  fun_induction readFrom next rest generalizing before with
  | case1 n =>
      obtain rfl : before = clause := by simpa using whole
      exact ⟨rfl, counted⟩
  | case2 n rest ih =>
      obtain ⟨gone, kept, same⟩ := convertAt_escape numbered start whole
      obtain ⟨text, total⟩ := @ih (before ++ ['\\', '?']) (by simpa using whole)
        (fun last => by simp at last) (by simp [counted, same])
      refine ⟨?_, by simpa using total⟩
      rw [List.length_append] at text
      simp [List.range'_succ, gone, kept, Symbol.render_char, text]
  | case3 n rest ih =>
      obtain ⟨place, more⟩ := convertAt_marker numbered start whole seamless
      obtain ⟨text, total⟩ := @ih (before ++ ['?']) (by simpa using whole)
        (fun last => by simp at last) (by simp [counted, more])
      refine ⟨?_, by rw [count_marker]; omega⟩
      rw [List.length_append] at text
      rw [List.length_cons, List.range'_succ, List.flatMap_cons, place, ← counted]
      exact congrArg (Dialect.placeText numbered (start + n) ++ ·) text
  | case4 n c rest noEscape notMarker ih =>
      have inside : Seamless [c] rest := seamless_of_noEscape noEscape
      obtain ⟨kept, same⟩ := convertAt_char numbered start whole notMarker inside
      obtain ⟨text, total⟩ := @ih (before ++ [c]) (by simpa using whole)
        (by simpa [Seamless] using inside) (by simp [counted, same])
      refine ⟨?_, by rw [count_char notMarker inside, total]⟩
      rw [List.length_append] at text
      rw [List.length_cons, List.range'_succ, List.flatMap_cons, kept, Symbol.render_char, text]
      rfl

theorem render_read (numbered : Bool) (start : Nat) (clause : List Char) :
    Symbol.render numbered start (read clause) =
        (List.range clause.length).flatMap (convertAt numbered start clause) ∧
      count clause = markersBefore clause clause.length := by
  obtain ⟨text, total⟩ := render_readFrom numbered start (List.nil_append clause)
    (fun last => by simp at last) rfl
  refine ⟨?_, (Nat.zero_add _).symm.trans total⟩
  rw [read, List.range_eq_range']
  exact text

theorem render_read_append (numbered : Bool) (start : Nat) {a b : List Char}
    (seamless : Seamless a b) :
    Symbol.render numbered start (read (a ++ b)) =
      Symbol.render numbered start (read a) ++
        Symbol.render numbered (start + count a) (read b) := by
  rw [read_append seamless, Symbol.render_append, Symbol.render_map_shift]

/-! ## Lists of clauses -/

/-- The texts converted one after the other, each from where the one before it ended. -/
def convertEach (numbered : Bool) : (start : Nat) → List (List Char) → List (List Char)
  | _, [] => []
  | start, clause :: rest =>
      Symbol.render numbered start (read clause) ::
        convertEach numbered (start + count clause) rest

section Joined

variable (numbered : Bool) (start : Nat) {separator : List Char} (separates : Separates separator)

include separates

theorem count_separator (rest : List Char) : count (separator ++ rest) = count rest := by
  rw [count_append (separates.after rest), count_eq_zero separates.noMark, Nat.zero_add]

/-- A text that joins others is converted to itself. -/
theorem render_separator (rest : List Char) :
    Symbol.render numbered start (read (separator ++ rest)) =
      separator ++ Symbol.render numbered start (read rest) := by
  rw [render_read_append numbered start (separates.after rest), read_eq_ofText separates.noMark,
    Symbol.render_ofText, count_eq_zero separates.noMark, Nat.add_zero]

theorem count_intercalate (clauses : List (List Char)) :
    count (separator.intercalate clauses) = (clauses.map count).sum := by
  induction clauses with
  | nil => rfl
  | cons c rest ih =>
      cases rest with
      | nil => simp
      | cons d rest =>
          rw [List.intercalate_cons_cons, List.append_assoc, count_append (separates.before c _),
            count_separator separates, ih]
          rfl

theorem render_intercalate (clauses : List (List Char)) :
    Symbol.render numbered start (read (separator.intercalate clauses)) =
      separator.intercalate (convertEach numbered start clauses) := by
  induction clauses generalizing start with
  | nil => rfl
  | cons c rest ih =>
      cases rest with
      | nil => simp [convertEach]
      | cons d rest =>
          rw [List.intercalate_cons_cons, List.append_assoc,
            render_read_append numbered start (separates.before c _),
            render_separator numbered _ separates, ih, ← List.append_assoc]
          exact (List.intercalate_cons_cons ..).symm

end Joined

/-- The joins with their clauses converted one after the other. -/
def convertJoins (numbered : Bool) : (start : Nat) → List Join → List Char
  | _, [] => []
  | start, j :: rest =>
      (' ' :: j.kind.keyword.toList ++ [' ']) ++
        (Symbol.render numbered start (read j.clause.toList) ++
          convertJoins numbered (start + count j.clause.toList) rest)

theorem render_joinText (numbered : Bool) (start : Nat) (joins : List Join) :
    Symbol.render numbered start (read (Query.joinText joins)) =
      convertJoins numbered start joins := by
  induction joins generalizing start with
  | nil => rfl
  | cons j rest ih =>
      rw [Query.joinText_cons, render_separator numbered start (Query.separates_joinKeyword j.kind),
        render_read_append numbered start (Query.seamless_joinText _ rest), ih, convertJoins]

theorem count_joinText (joins : List Join) :
    count (Query.joinText joins) = (joins.map fun j => count j.clause.toList).sum := by
  induction joins with
  | nil => rfl
  | cons j rest ih =>
      rw [Query.joinText_cons, count_separator (Query.separates_joinKeyword j.kind),
        count_append (Query.seamless_joinText _ rest), ih, List.map_cons, List.sum_cons]

/-- **What becomes of a clause.** The arguments of a clause are counted by its markers, and its text
is what each of its characters is converted to, in their order. Two texts that make no escape where
they meet are converted one after the other, the second from where the first ended. So clauses that
are joined by a text with neither mark nor backslash, such as those of an order or of a HAVING, and
the clauses of joins are converted one after the other. -/
theorem clause_converted (numbered : Bool) (start : Nat) :
    (∀ clause : List Char,
      count clause = markersBefore clause clause.length ∧
        Symbol.render numbered start (read clause) =
          (List.range clause.length).flatMap (convertAt numbered start clause)) ∧
      (∀ a b : List Char, Seamless a b →
        count (a ++ b) = count a + count b ∧
          Symbol.render numbered start (read (a ++ b)) =
            Symbol.render numbered start (read a) ++
              Symbol.render numbered (start + count a) (read b)) ∧
      (∀ separator : List Char, Separates separator → ∀ clauses : List (List Char),
        count (separator.intercalate clauses) = (clauses.map count).sum ∧
          Symbol.render numbered start (read (separator.intercalate clauses)) =
            separator.intercalate (convertEach numbered start clauses)) ∧
      ∀ joins : List Join,
        count (Query.joinText joins) = (joins.map fun j => count j.clause.toList).sum ∧
          Symbol.render numbered start (read (Query.joinText joins)) =
            convertJoins numbered start joins := by
  refine ⟨fun clause => ?_, fun a b seamless => ?_, fun separator separates clauses => ?_,
    fun joins => ⟨count_joinText joins, render_joinText numbered start joins⟩⟩
  · obtain ⟨text, total⟩ := render_read numbered start clause
    exact ⟨total, text⟩
  · exact ⟨count_append seamless, render_read_append numbered start seamless⟩
  · exact ⟨count_intercalate separates clauses,
      render_intercalate numbered start separates clauses⟩

/-- A seam between two backslashes, of which the first stays and the second makes an escape, and two
clauses joined by AND. -/
theorem splitBackslashes_converted :
    Seamless "a = ? \\".toList "\\? ??".toList ∧ Separates " AND ".toList ∧
      count ("a = ? \\".toList ++ "\\? ??".toList) = 3 ∧
      Symbol.render true 4 (read ("a = ? \\".toList ++ "\\? ??".toList)) =
        "a = $4 \\? $5$6".toList ∧
      Symbol.render true 4
          (read (" AND ".toList.intercalate ["? > 1".toList, "b \\? ?".toList])) =
        "$4 > 1 AND b ? $5".toList := by
  have seamless : Seamless "a = ? \\".toList "\\? ??".toList := by simp [Seamless]
  obtain ⟨-, seam, lists, -⟩ := clause_converted true 4
  obtain ⟨total, text⟩ := seam _ _ seamless
  obtain ⟨-, joined⟩ := lists _ Query.Section.separates_and ["? > 1".toList, "b \\? ?".toList]
  exact ⟨seamless, Query.Section.separates_and, total.trans (by decide), text.trans (by decide),
    joined.trans (by decide)⟩

end Marker

end QueryBind
