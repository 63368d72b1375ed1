/-
# QueryBind.Proofs.Query.PlaceLists — the text of a list of places

A list of places is written place by place, and where a parenthesis stands is told by the place's
number alone. Taking the parentheses out of a text is taking those characters out of its symbols, since
no placeholder has one (`Symbol.filter_render`), and leaves the list without groups
(`Marker.filter_placeList`). A list whose places are a whole number of groups is one of tuples
(`Marker.placeList_eq_tuples`), and `Marker.render_tuples` has their text.
-/
import QueryBind.Proofs.Query.Tuples

namespace QueryBind

set_option autoImplicit false

/-! ## Parentheses -/

namespace Text

def isParenthesis (c : Char) : Bool := c == '(' || c == ')'

/-- The text without its parentheses. -/
def unparenthesized (s : List Char) : List Char := s.filter fun c => !isParenthesis c

theorem unparenthesized_append (s t : List Char) :
    unparenthesized (s ++ t) = unparenthesized s ++ unparenthesized t := List.filter_append ..

theorem not_mem_of_unparenthesized {s : List Char} (same : unparenthesized s = s) :
    '(' ∉ s ∧ ')' ∉ s := by
  have none : ∀ c ∈ s, (!isParenthesis c) = true := List.filter_eq_self.mp same
  constructor
  · intro member
    exact absurd (none _ member) (by decide)
  · intro member
    exact absurd (none _ member) (by decide)

end Text

namespace Symbol

open Text

def isParenthesis : Symbol → Bool
  | .char c => Text.isParenthesis c
  | .place _ => false

/-- A placeholder has no parentheses. -/
theorem unparenthesized_placeText (numbered : Bool) (n : Nat) :
    unparenthesized (Dialect.placeText numbered n) = Dialect.placeText numbered n := by
  refine List.filter_eq_self.mpr fun c member => ?_
  cases numbered with
  | false =>
      obtain rfl := List.mem_singleton.mp member
      rfl
  | true =>
      rcases List.mem_cons.mp member with rfl | digit
      · rfl
      · have isDigit : c.isDigit = true :=
          Nat.isDigit_of_mem_toDigits (by decide) (by decide) digit
        by_contra parenthesis
        have spelled : c = '(' ∨ c = ')' := by
          simpa [Text.isParenthesis, imp_iff_not_or] using parenthesis
        rcases spelled with rfl | rfl
        · exact absurd isDigit (by decide)
        · exact absurd isDigit (by decide)

/-- The parentheses of a text are among its characters. -/
theorem unparenthesized_render (numbered : Bool) (start : Nat) (symbols : List Symbol) :
    unparenthesized (render numbered start symbols) =
      render numbered start (symbols.filter fun s => !s.isParenthesis) := by
  induction symbols with
  | nil => rfl
  | cons s rest ih =>
      show unparenthesized (text numbered start s ++ render numbered start rest) = _
      rw [unparenthesized_append, ih, List.filter_cons]
      cases s with
      | char c =>
          have alone : unparenthesized [c] = if !Text.isParenthesis c then [c] else [] :=
            List.filter_cons
          show unparenthesized [c] ++ _ =
            render numbered start (if !Text.isParenthesis c then _ else _)
          rw [alone]
          split <;> rfl
      | place k =>
          rw [text, unparenthesized_placeText]
          rfl

theorem render_intercalate (numbered : Bool) (start : Nat) (c : Char)
    (pieces : List (List Symbol)) :
    render numbered start ([.char c].intercalate pieces) =
      [c].intercalate (pieces.map (render numbered start)) := by
  induction pieces with
  | nil => rfl
  | cons first rest ih =>
      cases rest with
      | nil => simp [List.intercalate]
      | cons second rest =>
          rw [List.intercalate_cons_cons, render_append, render_append, ih]
          exact (List.intercalate_cons_cons ..).symm

end Symbol

/-! ## Lists -/

namespace Marker

open QueryBind.Symbol

/-- Without its parentheses a list is one without groups. -/
theorem filter_placeList (first count group : Nat) :
    (placeList first count group).filter (fun s => !s.isParenthesis) = placeList first count 1 := by
  rw [placeList_eq_flatMap, placeList_eq_flatMap, List.filter_flatMap]
  congr 1
  funext i
  have comma : (if i = 0 then [] else [Symbol.char ',']).filter (fun s => !s.isParenthesis) =
      if i = 0 then [] else [.char ','] := by
    split <;> rfl
  have opening : (if 1 < group ∧ i % group = 0 then [Symbol.char '('] else []).filter
      (fun s => !s.isParenthesis) = [] := by
    split <;> rfl
  have closing : (if 1 < group ∧ (i + 1) % group = 0 then [Symbol.char ')'] else []).filter
      (fun s => !s.isParenthesis) = [] := by
    split <;> rfl
  simp only [groupedPlace, List.filter_append, comma, opening, closing]
  simp [isParenthesis]

/-- Groups of one are not marked, nor are those of none. -/
theorem placeList_of_le_one {group : Nat} (small : group ≤ 1) (first count : Nat) :
    placeList first count group = placeList first count 1 := by
  simp [placeList, Nat.not_lt.mpr small]

/-- Placeholders from number `start` on, with commas between them. -/
def placeholders (numbered : Bool) (start count : Nat) : List Char :=
  [','].intercalate ((List.range count).map fun i => Dialect.placeText numbered (start + i))

theorem render_places (numbered : Bool) (start first count : Nat) :
    render numbered start
        ([.char ','].intercalate ((List.range count).map fun i => [.place (first + i)])) =
      placeholders numbered (start + first) count := by
  rw [Symbol.render_intercalate, placeholders, List.map_map]
  congr 2
  funext i
  simp [render, text, Nat.add_assoc]

theorem render_tuple (numbered : Bool) (start first : Nat) {width : Nat} (wide : 1 < width) :
    render numbered start (tuple first width) =
      '(' :: placeholders numbered (start + first) width ++ [')'] := by
  rw [tuple, if_neg (Nat.ne_of_gt wide), List.cons_append, render_char, render_append,
    render_places]
  rfl

theorem render_tuples (numbered : Bool) (start first : Nat) {width : Nat} (wide : 1 < width)
    (count : Nat) :
    render numbered start (tuples first width count) =
      [','].intercalate ((List.range count).map fun j =>
        '(' :: placeholders numbered (start + first + j * width) width ++ [')']) := by
  rw [tuples, Symbol.render_intercalate, List.map_map]
  congr 2
  funext j
  rw [Function.comp_apply, render_tuple numbered start _ wide, Nat.mul_comm, Nat.add_assoc]

/-- **A list is its placeholders in order, and its groups are marked.** Without its parentheses it is
the placeholders with commas between them. Groups of one have no parentheses, and a list of whole groups
is their tuples, with commas between them. -/
theorem list_is_in_order (numbered : Bool) (start first count group : Nat) :
    let text := render numbered start (placeList first count group)
    Text.unparenthesized text = placeholders numbered (start + first) count ∧
      (group ≤ 1 → '(' ∉ text ∧ ')' ∉ text) ∧
      ∀ m, 1 < group → count = group * m →
        text = [','].intercalate ((List.range m).map fun j =>
          '(' :: placeholders numbered (start + first + j * group) group ++ [')']) := by
  intro text
  have flat : Text.unparenthesized text = render numbered start (placeList first count 1) := by
    rw [unparenthesized_render, filter_placeList]
  refine ⟨?_, fun small => ?_, fun m wide whole => ?_⟩
  · have alone (j : Nat) : tuple (first + 1 * j) 1 = [.place (first + j)] := by
      simp [tuple, List.intercalate]
    simp only [flat, placeList_one, tuples, alone, render_places]
  · refine Text.not_mem_of_unparenthesized ?_
    rw [flat, ← placeList_of_le_one small]
  · subst whole
    rw [← render_tuples numbered start first wide, ← placeList_eq_tuples first (Nat.le_of_lt wide)]

theorem pairs_in_order :
    let flat := render false 7 (placeList 2 3 1)
    let paired := render true 7 (placeList 2 6 2)
    (1 ≤ 1 ∧ '(' ∉ flat ∧ ')' ∉ flat ∧ flat = "?,?,?".toList) ∧
      ((1 < 2 ∧ 6 = 2 * 3) ∧
        Text.unparenthesized paired = "$9,$10,$11,$12,$13,$14".toList ∧
        paired = "($9,$10),($11,$12),($13,$14)".toList) := by
  intro flat paired
  obtain ⟨single, free, -⟩ := list_is_in_order false 7 2 3 1
  obtain ⟨places, -, tuples⟩ := list_is_in_order true 7 2 6 2
  exact ⟨⟨le_rfl, (free le_rfl).1, (free le_rfl).2, by decide⟩, ⟨by decide, by decide⟩,
    places.trans (by decide), (tuples 3 (by decide) (by decide)).trans (by decide)⟩

end Marker

end QueryBind
