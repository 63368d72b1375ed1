/-
# QueryBind.Proofs.Query.Tuples — lists of tuples for several columns at once

The clause `(a, b) IN ?` tests a row of columns, and its list is one of tuples: `Marker.tuples` are
`count` tuples of `width` places each. A list whose places are a whole number of groups is such a
list (`Marker.placeList_eq_tuples`).

How wide the tuples are is read off the text left of the keyword, and the commas are counted
wherever they stand. A column that has a comma between parentheses of its own counts as
several. `Predicate.tuples_fit_columns` says what is written for any columns without markers:

* the left side is cut off at the keyword behind it, since no keyword crosses a comma or a closing
  parenthesis (`Membership.ofClause?_rowTest`);
* the groups are one wider than there are commas (`Membership.groupSize_row`);
* the list is one of tuples as wide as there are columns just when no column has a comma.
-/
import QueryBind.Proofs.Data.List
import QueryBind.Proofs.Query.Condition
import QueryBind.Proofs.Query.Membership

namespace QueryBind

set_option autoImplicit false

open QueryBind.Symbol Text

/-! ## Tuples -/

namespace Marker

/-- A tuple of the places `first`, …, `first + width - 1`; one place alone is written without
parentheses. -/
def tuple (first width : Nat) : List Symbol :=
  let places := [.char ','].intercalate ((List.range width).map fun i => [.place (first + i)])
  if width = 1 then places else .char '(' :: places ++ [.char ')']

/-- Tuples of `width` places each, from place `first` on. -/
def tuples (first width count : Nat) : List Symbol :=
  [.char ','].intercalate ((List.range count).map fun j => tuple (first + width * j) width)

/-- One place of a list in groups, with its comma and the parentheses of its group. -/
def groupedPlace (first group i : Nat) : List Symbol :=
  (if i = 0 then [] else [.char ',']) ++
    (if 1 < group ∧ i % group = 0 then [.char '('] else []) ++ [.place (first + i)] ++
    (if 1 < group ∧ (i + 1) % group = 0 then [.char ')'] else [])

theorem placeList_eq_flatMap (first count group : Nat) :
    placeList first count group = (List.range count).flatMap (groupedPlace first group) := rfl

/-- Groups of one are not marked. -/
theorem placeList_one (first count : Nat) : placeList first count 1 = tuples first 1 count := by
  rw [tuples, List.intercalate_map_range, placeList_eq_flatMap]
  congr 1
  funext i
  simp [groupedPlace, tuple, List.intercalate]

/-- Place `i` of group `j`. -/
theorem groupedPlace_at (first : Nat) {group i : Nat} (j : Nat) (wide : 1 < group)
    (within : i < group) :
    groupedPlace first group (group * j + i) =
      (if i = 0 then (if j = 0 then [] else [Symbol.char ',']) ++ [Symbol.char '(']
        else [Symbol.char ',']) ++ [Symbol.place (first + group * j + i)] ++
        (if i + 1 = group then [Symbol.char ')'] else []) := by
  have opens : (group * j + i) % group = i := by rw [Nat.mul_add_mod, Nat.mod_eq_of_lt within]
  have closes : (group * j + i + 1) % group = 0 ↔ i + 1 = group := by
    rw [Nat.add_assoc, Nat.mul_add_mod]
    constructor
    · intro whole
      by_contra short
      rw [Nat.mod_eq_of_lt (by omega)] at whole
      exact Nat.succ_ne_zero i whole
    · intro last
      rw [last, Nat.mod_self]
  have leads : group * j + i = 0 ↔ j = 0 ∧ i = 0 := by
    rw [Nat.add_eq_zero_iff, Nat.mul_eq_zero]
    omega
  rw [groupedPlace, Nat.add_assoc first]
  simp only [opens, closes, leads, wide, true_and]
  by_cases start : i = 0
  · by_cases head : j = 0
    · simp [start, head]
    · simp [start, head]
  · simp [start]

/-- The first places of a group, which stays open. -/
theorem flatMap_openGroup (first : Nat) {group n : Nat} (j : Nat) (within : n + 1 < group) :
    (List.range (n + 1)).flatMap (fun i => groupedPlace first group (group * j + i)) =
      (if j = 0 then [] else [Symbol.char ',']) ++ Symbol.char '(' :: [Symbol.char ','].intercalate
        ((List.range (n + 1)).map fun i => [Symbol.place (first + group * j + i)]) := by
  have wide : 1 < group := by omega
  induction n with
  | zero =>
      have here := groupedPlace_at first j wide (Nat.zero_lt_of_lt wide)
      have single : ¬ 0 + 1 = group := by omega
      rw [if_pos rfl, if_neg single] at here
      rw [List.range_one, List.flatMap_singleton, here]
      simp [List.intercalate]
  | succ n ih =>
      have here := groupedPlace_at first j wide (i := n + 1) (by omega)
      have inside : ¬ n + 1 + 1 = group := by omega
      rw [if_neg (Nat.succ_ne_zero n), if_neg inside] at here
      have some : (List.range (n + 1)).map (fun i => [Symbol.place (first + group * j + i)]) ≠ [] := by
        simp
      rw [List.range_succ, List.flatMap_append, List.flatMap_singleton, ih (by omega), here,
        List.map_append, List.map_singleton, List.intercalate_concat _ some]
      simp

/-- The places of a whole group. -/
theorem flatMap_group (first : Nat) {group : Nat} (j : Nat) (wide : 1 < group) :
    (List.range group).flatMap (fun i => groupedPlace first group (group * j + i)) =
      (if j = 0 then [] else [Symbol.char ',']) ++ tuple (first + group * j) group := by
  obtain ⟨n, rfl⟩ : ∃ n, group = n + 2 := ⟨group - 2, by omega⟩
  have last := groupedPlace_at first j wide (i := n + 1) (by omega)
  rw [if_neg (Nat.succ_ne_zero n), if_pos rfl] at last
  have some : (List.range (n + 1)).map
      (fun i => [Symbol.place (first + (n + 2) * j + i)]) ≠ [] := by simp
  have several : ¬ n + 2 = 1 := by omega
  rw [tuple, if_neg several, List.range_succ, List.flatMap_append, List.flatMap_singleton,
    flatMap_openGroup first j (by omega), last, List.map_append, List.map_singleton,
    List.intercalate_concat _ some]
  simp

/-- A whole number of groups is a list of tuples. -/
theorem placeList_eq_tuples (first : Nat) {width : Nat} (some : 1 ≤ width) (count : Nat) :
    placeList first (width * count) width = tuples first width count := by
  by_cases single : width = 1
  · subst single
    rw [Nat.one_mul, placeList_one]
  · have wide : 1 < width := by omega
    rw [placeList_eq_flatMap, List.flatMap_range_mul, tuples, List.intercalate_map_range]
    congr 1
    funext j
    exact flatMap_group first j wide

/-! ## How wide the tuples are -/

/-- A list in groups closes a parenthesis behind every whole group. -/
theorem count_close_placeList (first count : Nat) {group : Nat} (wide : 1 < group) :
    (placeList first count group).count (.char ')') = count / group := by
  induction count with
  | zero => simp [placeList]
  | succ count ih =>
      have comma : (if count = 0 then [] else [Symbol.char ',']).count (.char ')') = 0 := by
        split <;> rfl
      have opening : (if 1 < group ∧ count % group = 0 then [Symbol.char '('] else []).count
          (.char ')') = 0 := by
        split <;> rfl
      have place : [Symbol.place (first + count)].count (.char ')') = 0 := rfl
      rw [placeList_eq_flatMap] at ih ⊢
      rw [List.range_succ, List.flatMap_append, List.count_append, ih, List.flatMap_singleton,
        groupedPlace, List.count_append, List.count_append, List.count_append, comma, opening,
        place, Nat.succ_div]
      by_cases last : group ∣ count + 1
      · have whole : (count + 1) % group = 0 := Nat.mod_eq_zero_of_dvd last
        rw [if_pos last, if_pos ⟨wide, whole⟩]
        rfl
      · have partly : (count + 1) % group ≠ 0 := fun whole => last (Nat.dvd_of_mod_eq_zero whole)
        rw [if_neg last, if_neg fun both => partly both.2]
        rfl

/-- How a list starts. -/
theorem exists_placeList_succ (first n group : Nat) :
    ∃ rest, placeList first (n + 1) group =
      (if 1 < group then [Symbol.char '('] else []) ++ Symbol.place first :: rest := by
  refine ⟨(if 1 < group ∧ (0 + 1) % group = 0 then [Symbol.char ')'] else []) ++
    ((List.range n).map Nat.succ).flatMap (groupedPlace first group), ?_⟩
  rw [placeList_eq_flatMap, List.range_succ_eq_map, List.flatMap_cons, groupedPlace]
  simp

/-- A character that no number has occurs in a text as often as it is written. -/
theorem count_render {c : Char} (notSign : c ≠ '$') (notMark : c ≠ '?') (notDigit : c.isDigit = false)
    (numbered : Bool) (start : Nat) (symbols : List Symbol) :
    (render numbered start symbols).count c = symbols.count (.char c) := by
  have place (k : Nat) : (Symbol.text numbered start (.place k)).count c = 0 := by
    rw [List.count_eq_zero]
    intro member
    cases numbered with
    | false => exact notMark (by simpa [Symbol.text, Dialect.placeText] using member)
    | true =>
        rcases List.mem_cons.mp member with sign | digit
        · exact notSign sign
        · have isDigit : c.isDigit = true :=
            Nat.isDigit_of_mem_toDigits (by decide) (by decide) digit
          rw [notDigit] at isDigit
          cases isDigit
  induction symbols with
  | nil => rfl
  | cons s rest ih =>
      show (Symbol.text numbered start s ++ render numbered start rest).count c = _
      rw [List.count_append, ih]
      cases s with
      | char d =>
          by_cases same : d = c
          · subst same
            rw [List.count_cons_self, Nat.add_comm]
            simp [Symbol.text]
          · rw [List.count_cons_of_ne (by simpa using same)]
            simp [Symbol.text, same]
      | place k => rw [place, Nat.zero_add]; rfl

/-- The text of a list in groups is that of tuples just when the groups are as wide. -/
theorem render_placeList_eq_tuples_iff (numbered : Bool) (start first : Nat)
    {width count group : Nat} (some : 1 ≤ width) (nonempty : 1 ≤ count) (wide : width ≤ group) :
    render numbered start (placeList first (width * count) group) =
        render numbered start (tuples first width count) ↔ group = width := by
  constructor
  · intro same
    rw [← placeList_eq_tuples first some] at same
    by_contra wider
    by_cases single : width = 1
    · -- the one text starts with a parenthesis and the other with a place
      subst single
      obtain ⟨n, rfl⟩ : ∃ n, count = n + 1 := ⟨count - 1, by omega⟩
      obtain ⟨grouped, opened⟩ := exists_placeList_succ first n group
      obtain ⟨places, flat⟩ := exists_placeList_succ first n 1
      have parenthesis : 1 < group := by omega
      rw [Nat.one_mul, opened, flat, if_pos parenthesis, if_neg (Nat.lt_irrefl 1)] at same
      cases numbered with
      | false => simp [render, Symbol.text, Dialect.placeText] at same
      | true => simp [render, Symbol.text, Dialect.placeText] at same
    · have closed := congrArg (List.count ')') same
      rw [count_render (by decide) (by decide) (by decide),
        count_render (by decide) (by decide) (by decide),
        count_close_placeList _ _ (by omega), count_close_placeList _ _ (by omega),
        Nat.mul_div_cancel_left _ some] at closed
      have fewer : width * count / group < count := by
        refine Nat.div_lt_of_lt_mul (Nat.mul_lt_mul_of_pos_right ?_ nonempty)
        omega
      omega
  · rintro rfl
    rw [placeList_eq_tuples first some]

end Marker

/-! ## Several columns before a keyword -/

namespace Membership

theorem IsKeyword.not_mem {negated : Bool} {keyword : List Char}
    (spelled : IsKeyword negated keyword) {c : Char} (notBlank : isBlank c = false)
    (notLetter : c.toLower ∉ ['i', 'n', 'o', 't']) : c ∉ keyword := by
  induction spelled with
  | plain isI isN =>
      intro member
      simp only [List.mem_cons, List.not_mem_nil, or_false] at member notLetter
      rcases member with rfl | rfl
      · exact notLetter (.inl isI)
      · exact notLetter (.inr (.inl isN))
  | negated isN isO isT apart blank plain ih =>
      intro member
      simp only [List.mem_cons, List.mem_append, List.not_mem_nil, or_false] at member notLetter
      rcases member with rfl | rfl | rfl | inBlanks | inKeyword
      · exact notLetter (.inr (.inl isN))
      · exact notLetter (.inr (.inr (.inl isO)))
      · exact notLetter (.inr (.inr (.inr isT)))
      · rw [blank c inBlanks] at notBlank
        cases notBlank
      · exact ih inKeyword

/-- A character that stands neither in a keyword nor right behind one. -/
def Parts (c : Char) : Prop :=
  isBlank c = false ∧ c.toLower ∉ ['i', 'n', 'o', 't'] ∧ startsRight c = false

instance (c : Char) : Decidable (Parts c) := inferInstanceAs (Decidable (_ ∧ _ ∧ _))

/-- Text behind a parting character adds no keyword at the head. -/
theorem keyword?_append_eq_none {c : Char} (parts : Parts c) {s : List Char}
    (unkeyed : keyword? s = none) (rest : List Char) : keyword? (s ++ c :: rest) = none := by
  obtain ⟨notBlank, notLetter, notDelimiter⟩ := parts
  by_contra keyed
  obtain ⟨⟨negated, right⟩, found⟩ := Option.ne_none_iff_exists'.mp keyed
  obtain ⟨keyword, spelled, split⟩ := keyword?_eq_some found
  obtain ⟨d, tail, rfl, delimiter⟩ := startsRight_of_keyword? found
  have outside : c ∉ keyword := spelled.not_mem notBlank notLetter
  have apart : c ≠ d := by
    rintro rfl
    rw [notDelimiter] at delimiter
    cases delimiter
  rcases List.append_eq_append_iff.mp split with ⟨more, rfl, behind⟩ | ⟨more, rfl, behind⟩
  · cases more with
    | nil => exact apart (List.cons.inj behind).1
    | cons e more =>
        obtain ⟨rfl, -⟩ := List.cons.inj behind
        exact outside (by simp)
  · cases more with
    | nil => exact apart (List.cons.inj behind).1.symm
    | cons e more =>
        obtain ⟨rfl, -⟩ := List.cons.inj behind
        rw [spelled.keyword?_append delimiter] at unkeyed
        cases unkeyed

/-- Without a keyword that starts here behind a delimiter, the cut is looked for further on. -/
theorem cut?_step {before : List Char} {c : Char} {rest : List Char}
    (unkeyed : ∀ p, before.head? = some p → endsLeft p = true → keyword? (c :: rest) = none) :
    cut? before (c :: rest) = cut? (c :: before) rest := by
  rw [cut?]
  split
  · next p negated right head found =>
      split
      · next delimiter =>
          rw [unkeyed p head delimiter] at found
          cases found
      · rfl
  · rfl

theorem cut?_cons_eq_none {before : List Char} {c : Char} {rest : List Char}
    (uncut : cut? before (c :: rest) = none) :
    (∀ p, before.head? = some p → endsLeft p = true → keyword? (c :: rest) = none) ∧
      cut? (c :: before) rest = none := by
  have unkeyed : ∀ p, before.head? = some p → endsLeft p = true →
      keyword? (c :: rest) = none := by
    intro p head delimiter
    by_contra keyed
    obtain ⟨⟨negated, right⟩, found⟩ := Option.ne_none_iff_exists'.mp keyed
    simp [cut?, head, found, delimiter] at uncut
  exact ⟨unkeyed, by rwa [cut?_step unkeyed] at uncut⟩

/-- A text that has no cut of its own is passed, up to the parting character behind it. -/
theorem cut?_past {c : Char} (parts : Parts c) {outer : List Char}
    (edge : ∀ p, outer.head? = some p → endsLeft p = false) {inner s : List Char}
    (uncut : cut? inner s = none) (rest : List Char) :
    cut? (inner ++ outer) (s ++ c :: rest) =
      cut? (c :: (s.reverse ++ (inner ++ outer))) rest := by
  induction s generalizing inner with
  | nil => exact cut?_step fun _ _ _ => keyword?_append_eq_none parts (s := []) rfl rest
  | cons d s ih =>
      obtain ⟨here, later⟩ := cut?_cons_eq_none uncut
      have unkeyed : ∀ p, (inner ++ outer).head? = some p → endsLeft p = true →
          keyword? (d :: (s ++ c :: rest)) = none := by
        intro p head delimiter
        cases inner with
        | nil =>
            rw [edge p head] at delimiter
            cases delimiter
        | cons q inner => exact keyword?_append_eq_none parts (here p head delimiter) rest
      rw [List.cons_append, cut?_step unkeyed]
      simpa using ih later

/-- The columns of a row are passed together. -/
theorem cut?_columns {columns : List (List Char)} (listed : columns ≠ [])
    (uncut : ∀ column ∈ columns, ofClause? column = none) {outer : List Char}
    (edge : ∀ p, outer.head? = some p → endsLeft p = false) (rest : List Char) :
    cut? outer ([','].intercalate columns ++ ')' :: rest) =
      cut? (')' :: (([','].intercalate columns).reverse ++ outer)) rest := by
  induction columns generalizing outer with
  | nil => exact absurd rfl listed
  | cons first others ih =>
      have here : cut? [] first = none := uncut first List.mem_cons_self
      cases others with
      | nil =>
          have past := cut?_past (c := ')') (by decide) edge here rest
          simpa [List.intercalate] using past
      | cons second others =>
          have past := cut?_past (c := ',') (by decide) edge here
            ([','].intercalate (second :: others) ++ ')' :: rest)
          have comma : ∀ p, (',' :: (first.reverse ++ outer)).head? = some p →
              endsLeft p = false := by
            intro p head
            obtain rfl : ',' = p := by simpa using head
            decide
          have later := ih (List.cons_ne_nil _ _)
            (fun column member => uncut column (List.mem_cons_of_mem _ member)) comma
          rw [List.intercalate_cons_cons]
          simp only [List.append_assoc, List.cons_append, List.nil_append, List.reverse_append,
            List.reverse_cons] at past later ⊢
          rw [past, later]

/-- Blanks are passed up to the keyword. -/
theorem cut?_blanks {blanks : List Char} (blank : ∀ c ∈ blanks, isBlank c = true)
    {negated : Bool} {keyword : List Char} (spelled : IsKeyword negated keyword) {d : Char}
    (delimiter : startsRight d = true) (rest : List Char) {before : List Char} {p : Char}
    (head : before.head? = some p) (ends : endsLeft p = true) :
    cut? before (blanks ++ (keyword ++ d :: rest)) =
      some ⟨before.reverse ++ blanks, negated, d :: rest⟩ := by
  induction blanks generalizing before p with
  | nil =>
      obtain ⟨c, letters, rfl, -⟩ := spelled.exists_cons
      have found := spelled.keyword?_append delimiter rest
      rw [List.cons_append] at found
      simp [cut?, head, found, ends]
  | cons b blanks ih =>
      have isBlank : isBlank b = true := blank b List.mem_cons_self
      have unkeyed : keyword? (b :: (blanks ++ (keyword ++ d :: rest))) = none := by
        by_contra keyed
        obtain ⟨⟨_, right⟩, found⟩ := Option.ne_none_iff_exists'.mp keyed
        obtain ⟨other, otherSpelled, split⟩ := keyword?_eq_some found
        obtain ⟨c, letters, rfl, notBlank⟩ := otherSpelled.exists_cons
        obtain ⟨rfl, -⟩ := List.cons.inj split
        rw [isBlank] at notBlank
        cases notBlank
      rw [List.cons_append, cut?_step fun _ _ _ => unkeyed,
        ih (fun c member => blank c (List.mem_cons_of_mem _ member)) List.head?_cons
          (by simp [endsLeft, isBlank])]
      simp

/-- The columns of a row between parentheses. -/
def row (columns : List (List Char)) : List Char := '(' :: ([','].intercalate columns ++ [')'])

/-- The clause that tests a row against the list of its marker. -/
def rowTest (columns : List (List Char)) (before keyword after : List Char) : List Char :=
  row columns ++ (before ++ (keyword ++ (after ++ ['?'])))

/-- A row is cut off at the keyword behind it. -/
theorem ofClause?_rowTest {columns : List (List Char)} (listed : columns ≠ [])
    (uncut : ∀ column ∈ columns, ofClause? column = none) {before keyword after : List Char}
    {negated : Bool} (blankBefore : ∀ c ∈ before, isBlank c = true)
    (spelled : IsKeyword negated keyword) (blankAfter : ∀ c ∈ after, isBlank c = true) :
    ofClause? (rowTest columns before keyword after) =
      some ⟨row columns ++ before, negated, after ++ ['?']⟩ := by
  obtain ⟨d, rest, right, delimiter⟩ : ∃ d rest, after ++ ['?'] = d :: rest ∧
      startsRight d = true := by
    cases after with
    | nil => exact ⟨'?', [], rfl, by decide⟩
    | cons b after =>
        exact ⟨b, after ++ ['?'], rfl, by simp [startsRight, blankAfter b List.mem_cons_self]⟩
  have edge : ∀ p, ['('].head? = some p → endsLeft p = false := by
    intro p head
    obtain rfl : '(' = p := by simpa using head
    decide
  have columnsPassed := cut?_columns listed uncut edge (before ++ (keyword ++ d :: rest))
  have opened : cut? [] (rowTest columns before keyword after) =
      cut? ['('] ([','].intercalate columns ++ ')' :: (before ++ (keyword ++ d :: rest))) := by
    rw [rowTest, row, right]
    simp only [List.cons_append, List.append_assoc]
    exact cut?_step (by simp)
  rw [ofClause?, opened, columnsPassed,
    cut?_blanks blankBefore spelled delimiter rest (p := ')') rfl (by decide), right]
  simp [row]

/-- The tuples for a row are one wider than there are commas, wherever those stand. -/
theorem groupSize_row {columns : List (List Char)} (listed : columns ≠ []) :
    groupSize (row columns) = columns.length + columns.flatten.count ',' := by
  have enclosed : enclosed? (row columns) = some ([','].intercalate columns) := by
    simp [row, enclosed?]
  rw [groupSize, enclosed]
  exact (List.length_splitOn ',' _).trans (List.count_intercalate ',' listed)

theorem trim_row {before : List Char} (blank : ∀ c ∈ before, isBlank c = true)
    (columns : List (List Char)) : trim (row columns ++ before) = row columns := by
  have start : trimStart (row columns ++ before) = row columns ++ before := by
    rw [trimStart, row, List.cons_append, List.dropWhile_cons_of_neg (by decide)]
  have last : row columns = ('(' :: [','].intercalate columns) ++ [')'] := rfl
  have reversed : ∀ c ∈ before.reverse, isBlank c = true := by
    simpa using blank
  rw [trim, start, trimEnd, last, List.reverse_append, List.dropWhile_append_of_pos reversed,
    List.reverse_append]
  rw [List.reverse_singleton, List.singleton_append, List.dropWhile_cons_of_neg (by decide)]
  simp

theorem trim_marker {after : List Char} (blank : ∀ c ∈ after, isBlank c = true) :
    trim (after ++ ['?']) = ['?'] := by
  rw [trim, trimStart, List.dropWhile_append_of_pos blank]
  decide

/-- A row of columns without markers takes no arguments of its own. -/
theorem count_row {columns : List (List Char)}
    (unmarked : ∀ column ∈ columns, Marker.count column = 0) :
    Marker.count (row columns) = 0 := by
  have joined : Marker.count ([','].intercalate columns) = 0 := by
    induction columns with
    | nil => rfl
    | cons first others ih =>
        have here := unmarked first List.mem_cons_self
        have later := ih fun column member => unmarked column (List.mem_cons_of_mem _ member)
        cases others with
        | nil => simpa [List.intercalate] using here
        | cons second others =>
            have comma : Marker.Seamless first [','] := fun _ => by decide
            have behind : Marker.Seamless (first ++ [',']) ([','].intercalate (second :: others)) := by
              simp [Marker.Seamless]
            rw [List.intercalate_cons_cons, Marker.count_append behind, Marker.count_append comma,
              here, later]
            rfl
  have closing : Marker.Seamless ([','].intercalate columns) [')'] := fun _ => by decide
  rw [row, Marker.count_char (by decide) (by simp [Marker.Seamless]), Marker.count_append closing,
    joined]
  rfl

/-- The symbols of a row test: the left side as it is read, and one list for all arguments. -/
theorem clauseSymbols_rowTest {columns : List (List Char)} (listed : columns ≠ [])
    (unmarked : ∀ column ∈ columns, Marker.count column = 0)
    (uncut : ∀ column ∈ columns, ofClause? column = none) {before keyword after : List Char}
    {negated : Bool} (blankBefore : ∀ c ∈ before, isBlank c = true)
    (spelled : IsKeyword negated keyword) (blankAfter : ∀ c ∈ after, isBlank c = true)
    (total : Nat) :
    clauseSymbols (rowTest columns before keyword after) total =
      Marker.read (row columns) ++ ofText (keywordText negated) ++
        .char '(' :: Marker.placeList 0 total
          (columns.length + columns.flatten.count ',') ++ [.char ')'] := by
  rw [clauseSymbols, ofClause?_rowTest listed uncut blankBefore spelled blankAfter]
  simp [symbols, trim_row blankBefore, trim_marker blankAfter, count_row unmarked,
    groupSize_row listed, Marker.expandFrom, ofText]

end Membership

/-! ## Rendered tests -/

namespace Predicate

open Condition QueryBind.Membership

/-- **The tuples of a row test are as wide as its row, unless a column has a comma.** The right side
is one parenthesised list of the arguments, in groups one wider than the left side has commas. That
list is `count` tuples of one place for each column, numbered from the first argument on, just when
no column has a comma of its own. -/
theorem tuples_fit_columns {columns : List (List Char)} (listed : columns ≠ [])
    (unmarked : ∀ column ∈ columns, Marker.count column = 0)
    (uncut : ∀ column ∈ columns, ofClause? column = none) {before keyword after : List Char}
    {negated : Bool} (blankBefore : ∀ c ∈ before, isBlank c = true)
    (spelled : IsKeyword negated keyword) (blankAfter : ∀ c ∈ after, isBlank c = true)
    {test : Test} (member : test ≠ .plain) {args : List Value} {count : Nat} (nonempty : 1 ≤ count)
    (whole : args.length = columns.length * count) (numbered wrapped : Bool) (start : Nat) :
    ∃ list,
      render numbered start (leafFragment wrapped test
          (String.ofList (rowTest columns before keyword after)) args).symbols =
        (if wrapped then ['('] else []) ++
          (render numbered start (Marker.read (row columns)) ++ keywordText negated ++
            '(' :: list ++ [')']) ++ (if wrapped then [')'] else []) ∧
      list = render numbered start (Marker.placeList 0 args.length
        (columns.length + columns.flatten.count ',')) ∧
      (list = render numbered start (Marker.tuples 0 columns.length count) ↔
        ∀ column ∈ columns, ',' ∉ column) := by
  have width : 1 ≤ columns.length := List.length_pos_of_ne_nil listed
  have given : args.isEmpty = false := by
    cases args with
    | nil =>
        have product : 0 < columns.length * count := Nat.mul_pos width nonempty
        rw [← whole] at product
        cases product
    | cons => rfl
  refine ⟨_, ?_, rfl, ?_⟩
  · have symbols := clauseSymbols_rowTest listed unmarked uncut blankBefore spelled blankAfter
      args.length
    have text := render_leafFragment numbered wrapped start test
      (String.ofList (rowTest columns before keyword after)) args
    simp only [leafText, if_neg member, String.toList_ofList, symbols, given, Bool.false_eq_true,
      and_false, if_false] at text
    have opening (symbols : List Symbol) : render numbered start (.char '(' :: symbols) =
        '(' :: render numbered start symbols := rfl
    have closing : render numbered start [.char ')'] = [')'] := rfl
    rw [text, render_append, render_append, render_append, render_ofText, opening, closing]
    cases wrapped with
    | true => simp
    | false => simp
  · rw [whole, Marker.render_placeList_eq_tuples_iff numbered start 0 width nonempty
      (Nat.le_add_right _ _), Nat.add_eq_left, List.count_eq_zero, List.mem_flatten]
    constructor
    · intro free column member inside
      exact free ⟨column, member, inside⟩
    · rintro free ⟨column, member, inside⟩
      exact free column member inside

theorem pairTest_text :
    ∃ list,
      render true 3 (leafFragment true .notAmong "(a, b) not IN ?"
          [.int 1, .int 2, .int 3, .int 4]).symbols =
        "((a, b) NOT IN (".toList ++ list ++ "))".toList ∧
      list = "($3,$4),($5,$6)".toList := by
  have listed : ["a".toList, " b".toList] ≠ [] := List.cons_ne_nil _ _
  have blank : ∀ c ∈ [' '], isBlank c = true := by
    intro c member
    obtain rfl := List.mem_singleton.mp member
    decide
  have spelled : IsKeyword true "not IN".toList :=
    .negated (by decide) (by decide) (by decide) (List.cons_ne_nil ' ' []) blank
      (.plain (by decide) (by decide))
  have member : Test.notAmong ≠ .plain := by decide
  have whole : [Value.int 1, .int 2, .int 3, .int 4].length =
      ["a".toList, " b".toList].length * 2 := rfl
  obtain ⟨list, text, -, fits⟩ := tuples_fit_columns listed (by decide) (by decide) blank spelled
    blank member (by decide) whole true true 3
  have clause : String.ofList
      (rowTest ["a".toList, " b".toList] [' '] "not IN".toList [' ']) = "(a, b) not IN ?" := by
    decide
  have left : render true 3 (Marker.read (row ["a".toList, " b".toList])) = "(a, b)".toList := by
    decide
  rw [clause, left] at text
  refine ⟨list, text.trans ?_, (fits.mpr (by decide)).trans (by decide)⟩
  simp [keywordText]

/-- A test of two columns, the first of which has a comma of its own. -/
def coalescedTest : Query :=
  (Query.empty .postgres).applyAll
    [.appendFrom "t",
      .appendLeaf .among "(COALESCE(a, 0), b) IN ?" [.int 1, .int 2, .int 3, .int 4]]

/-- Four values for two balanced columns are written as three and one. -/
theorem coalescedTest_miscounted :
    let columns := ["COALESCE(a, 0)".toList, " b".toList]
    "(COALESCE(a, 0), b) IN ?".toList = rowTest columns [' '] "IN".toList [' '] ∧
      (∀ column ∈ columns,
        Balanced column ∧ Marker.count column = 0 ∧ ofClause? column = none) ∧
      coalescedTest.render.sql =
        "SELECT * FROM \"t\" WHERE ((COALESCE(a, 0), b) IN (($1,$2,$3),($4));" ∧
      render true 1 (Marker.tuples 0 2 2) = "($1,$2),($3,$4)".toList := by
  refine ⟨by decide, by decide, by decide, by decide⟩

end Predicate

end QueryBind
