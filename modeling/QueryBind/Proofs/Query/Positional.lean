/-
# QueryBind.Proofs.Query.Positional — numbered and unnumbered placeholders

A dialect with numbered placeholders writes `$1`, `$2`, … where another writes `?`. Taking the
numbers out of a numbered statement (`Text.unnumbered`) gives the other one, as long as a dollar sign
and the digits behind it can only come from a placeholder: no text of the query has a
dollar sign, and no marker is followed by a digit.

`Symbol.Clear` is what symbols need for that: no dollar sign among the characters, and no digit right
behind a place. Clear symbols may be put one after the other when a digit does not open what follows a
place. Behind every list of clauses stands a text that no digit opens (`Text.Stops`), and the sections
that a digit may open, those of columns and tables, stand behind a keyword
(`Query.clear_concat`).
-/
import QueryBind.Proofs.Identifier.Characters
import QueryBind.Proofs.Query.Membership
import QueryBind.Proofs.Query.Window

namespace QueryBind

set_option autoImplicit false

open QueryBind.Symbol

/-! ## Numbers taken out -/

namespace Text

/-- The text with every `$` and the digits behind it replaced by `?`; `inNumber` tells that digits
still belong to a number. -/
def unnumberedFrom : (inNumber : Bool) → List Char → List Char
  | _, [] => []
  | inNumber, c :: rest =>
      if c = '$' then '?' :: unnumberedFrom true rest
      else if inNumber && c.isDigit then unnumberedFrom true rest
      else c :: unnumberedFrom false rest

def unnumbered (s : List Char) : List Char := unnumberedFrom false s

/-- In a number, the digits that come next are dropped. -/
theorem unnumberedFrom_true (s : List Char) :
    unnumberedFrom true s = unnumbered (s.dropWhile Char.isDigit) := by
  induction s with
  | nil => rfl
  | cons c rest ih =>
      by_cases digit : c.isDigit = true
      · have noSign : c ≠ '$' := by
          rintro rfl
          revert digit
          decide
        rw [List.dropWhile_cons_of_pos digit, ← ih, unnumberedFrom, if_neg noSign]
        simp [digit]
      · rw [List.dropWhile_cons_of_neg digit, unnumbered, unnumberedFrom, unnumberedFrom]
        simp [digit]

theorem unnumberedFrom_digits {digits : List Char} (all : ∀ c ∈ digits, c.isDigit = true)
    (rest : List Char) : unnumberedFrom true (digits ++ rest) = unnumberedFrom true rest := by
  rw [unnumberedFrom_true, unnumberedFrom_true, List.dropWhile_append_of_pos all]

/-- A text that ends a number before it: no digit opens it, and it has no dollar sign. -/
def Stops (s : List Char) : Prop := '$' ∉ s ∧ s.head?.any (fun c => !c.isDigit) = true

instance (s : List Char) : Decidable (Stops s) := inferInstanceAs (Decidable (_ ∧ _))

theorem Stops.append {s t : List Char} (stops : Stops s) (absent : '$' ∉ t) : Stops (s ++ t) := by
  obtain ⟨none, opens⟩ := stops
  refine ⟨by simp [none, absent], ?_⟩
  cases s with
  | nil => cases opens
  | cons c rest => exact opens

end Text

open Text

/-! ## Clear symbols -/

namespace Symbol

/-- No character is a dollar sign, and no digit stands right behind a place; `after` tells that a
place stands right before the symbols. -/
def Clear : (after : Bool) → List Symbol → Prop
  | _, [] => True
  | after, .char c :: rest => c ≠ '$' ∧ (after = true → c.isDigit = false) ∧ Clear false rest
  | _, .place _ :: rest => Clear true rest

/-- Behind a character, any other character may stand. -/
theorem Clear.char {c : Char} (noSign : '$' ≠ c) {rest : List Symbol} (later : Clear false rest) :
    Clear false (.char c :: rest) := by
  refine ⟨noSign.symm, ?_, later⟩
  intro impossible
  cases impossible

/-- **The numbers of clear symbols can be taken out.** -/
theorem unnumberedFrom_render {after : Bool} {symbols : List Symbol} (clear : Clear after symbols)
    (start : Nat) : unnumberedFrom after (render true start symbols) = render false start symbols := by
  induction symbols generalizing after with
  | nil => rfl
  | cons s rest ih =>
      cases s with
      | char c =>
          obtain ⟨noSign, noDigit, later⟩ := clear
          show unnumberedFrom after (c :: render true start rest) = c :: render false start rest
          have kept : (after && c.isDigit) = false := by
            cases after with
            | false => rfl
            | true => simpa using noDigit rfl
          rw [unnumberedFrom, if_neg noSign, kept, ih later]
          rfl
      | place k =>
          have digits : ∀ c ∈ natural (start + k), c.isDigit = true := fun c member =>
            Nat.isDigit_of_mem_toDigits (by decide) (by decide) member
          show unnumberedFrom after ('$' :: (natural (start + k) ++ render true start rest)) =
            '?' :: render false start rest
          rw [unnumberedFrom, if_pos rfl, unnumberedFrom_digits digits, ih clear]

theorem Clear.weaken {symbols : List Symbol} (clear : Clear true symbols) (after : Bool) :
    Clear after symbols := by
  cases symbols with
  | nil => exact clear
  | cons s rest =>
      cases s with
      | char c => exact ⟨clear.1, fun _ => clear.2.1 rfl, clear.2.2⟩
      | place k => exact clear

theorem Clear.append {after : Bool} {a b : List Symbol} (first : Clear after a)
    (second : Clear true b) : Clear after (a ++ b) := by
  induction a generalizing after with
  | nil => exact second.weaken after
  | cons s rest ih =>
      cases s with
      | char c => exact ⟨first.1, first.2.1, ih first.2.2⟩
      | place k => exact @ih true first

theorem Clear.left {after : Bool} {a b : List Symbol} (clear : Clear after (a ++ b)) :
    Clear after a := by
  induction a generalizing after with
  | nil => trivial
  | cons s rest ih =>
      cases s with
      | char c => exact ⟨clear.1, clear.2.1, ih clear.2.2⟩
      | place k => exact @ih true clear

theorem Clear.right {after : Bool} {a b : List Symbol} (clear : Clear after (a ++ b)) :
    Clear false b := by
  induction a generalizing after with
  | nil =>
      cases after with
      | false => exact clear
      | true => exact Clear.weaken clear false
  | cons s rest ih =>
      cases s with
      | char c => exact ih clear.2.2
      | place k => exact @ih true clear

/-- Being clear has nothing to do with the offsets. -/
theorem clear_map_shift (n : Nat) (after : Bool) (symbols : List Symbol) :
    Clear after (symbols.map (shift n)) ↔ Clear after symbols := by
  induction symbols generalizing after with
  | nil => rfl
  | cons s rest ih =>
      cases s with
      | char c => simp only [List.map_cons, shift, Clear, ih]
      | place k => simp only [List.map_cons, shift, Clear, ih]

theorem clear_ofText {s : List Char} (absent : '$' ∉ s) : Clear false (ofText s) := by
  induction s with
  | nil => trivial
  | cons c rest ih =>
      obtain ⟨noSign, absent⟩ := List.ne_and_not_mem_of_not_mem_cons absent
      exact .char noSign (ih absent)

/-- A stopping text keeps a digit behind it from a place before it. -/
theorem clear_stops_append {s : List Char} (stops : Stops s) {symbols : List Symbol}
    (clear : Clear false symbols) (after : Bool) : Clear after (ofText s ++ symbols) := by
  obtain ⟨absent, opens⟩ := stops
  have later : ∀ {t : List Char}, '$' ∉ t → Clear false (ofText t ++ symbols) := by
    intro t absent
    induction t with
    | nil => exact clear
    | cons c rest ih =>
        obtain ⟨noSign, absent⟩ := List.ne_and_not_mem_of_not_mem_cons absent
        exact .char noSign (ih absent)
  cases s with
  | nil => cases opens
  | cons c rest =>
      obtain ⟨noSign, absent⟩ := List.ne_and_not_mem_of_not_mem_cons absent
      exact ⟨noSign.symm, fun _ => by simpa using opens, later absent⟩

theorem clear_stops {s : List Char} (stops : Stops s) (after : Bool) : Clear after (ofText s) := by
  have nothing : Clear false [] := trivial
  have clear := clear_stops_append stops nothing after
  rwa [List.append_nil] at clear

end Symbol

/-! ## Clauses -/

namespace Marker

/-- A marker outside escapes stands right before a digit. -/
def meetsDigit : List Char → Bool
  | [] => false
  | '\\' :: '?' :: rest => meetsDigit rest
  | '?' :: rest => rest.head?.any Char.isDigit || meetsDigit rest
  | _ :: rest => meetsDigit rest

/-- The numbers of the clause's placeholders can be told from its text. -/
def Legible (clause : List Char) : Prop := '$' ∉ clause ∧ meetsDigit clause = false

instance (clause : List Char) : Decidable (Legible clause) := inferInstanceAs (Decidable (_ ∧ _))

theorem clear_readFrom {clause : List Char} (legible : Legible clause) (next : Nat) {after : Bool}
    (apart : (after && clause.head?.any Char.isDigit) = false) :
    Clear after (readFrom next clause) := by
  obtain ⟨absent, meets⟩ := legible
  fun_induction readFrom next clause generalizing after with
  | case1 => trivial
  | case2 next rest ih =>
      obtain ⟨-, absent⟩ := List.ne_and_not_mem_of_not_mem_cons absent
      obtain ⟨-, absent⟩ := List.ne_and_not_mem_of_not_mem_cons absent
      rw [meetsDigit] at meets
      exact ⟨by decide, fun _ => by decide, ih rfl absent meets⟩
  | case3 next rest ih =>
      obtain ⟨-, absent⟩ := List.ne_and_not_mem_of_not_mem_cons absent
      rw [meetsDigit, Bool.or_eq_false_iff] at meets
      exact ih (by rw [meets.1, Bool.and_false]) absent meets.2
  | case4 next c rest noEscape notMarker ih =>
      obtain ⟨noSign, absent⟩ := List.ne_and_not_mem_of_not_mem_cons absent
      rw [meetsDigit] at meets
      · refine ⟨noSign.symm, ?_, ih rfl absent meets⟩
        rintro rfl
        simpa using apart
      · exact noEscape
      · exact notMarker

theorem clear_read {clause : List Char} (legible : Legible clause) : Clear false (read clause) :=
  clear_readFrom legible 0 rfl

theorem clear_read_append {after : Bool} {a b : List Char} (seamless : Seamless a b)
    (first : Clear after (read a)) (second : Clear true (read b)) :
    Clear after (read (a ++ b)) := by
  rw [read_append seamless]
  exact first.append ((clear_map_shift _ _ _).mpr second)

theorem clear_read_separator {s : List Char} (separates : Fragment.Separates s) (stops : Stops s)
    {b : List Char} (clear : Clear false (read b)) (after : Bool) : Clear after (read (s ++ b)) := by
  rw [read_append (separates.after b), read_eq_ofText separates.noMark]
  exact clear_stops_append stops ((clear_map_shift _ _ _).mpr clear) after

/-- Clear clauses stay clear when they are joined by a text that parts them. -/
theorem clear_intercalate {separator : List Char} (separates : Fragment.Separates separator)
    (stops : Stops separator) {clauses : List (List Char)}
    (clear : ∀ clause ∈ clauses, Clear false (read clause)) :
    Clear false (read (separator.intercalate clauses)) := by
  induction clauses with
  | nil => trivial
  | cons first rest ih =>
      obtain ⟨here, later⟩ := List.forall_mem_cons.mp clear
      cases rest with
      | nil => simpa [List.intercalate] using here
      | cons second rest =>
          rw [List.intercalate_cons_cons, List.append_assoc]
          exact clear_read_append (separates.before _ _) here
            (clear_read_separator separates stops (ih later) true)

theorem clear_read_trimStart {s : List Char} (clear : Clear false (read s)) :
    Clear false (read (trimStart s)) := by
  have split : s = s.takeWhile isBlank ++ trimStart s := List.takeWhile_append_dropWhile.symm
  have blank : ∀ c ∈ s.takeWhile isBlank, isBlank c = true := fun c => List.mem_takeWhile_imp
  have seamless : Seamless (s.takeWhile isBlank) (trimStart s) := fun last =>
    absurd rfl (blank_not_mark (blank _ (List.mem_of_getLast? last))).2
  rw [split, read_append seamless] at clear
  exact (clear_map_shift _ _ _).mp clear.right

theorem clear_read_trim {s : List Char} (clear : Clear false (read s)) :
    Clear false (read (trim s)) := by
  have start := clear_read_trimStart clear
  have split : trimStart s = trim s ++ (trimStart s).rtakeWhile isBlank :=
    List.rdropWhile_append_rtakeWhile.symm
  have seamless : Seamless (trim s) ((trimStart s).rtakeWhile isBlank) := fun _ head =>
    (blank_not_mark (List.mem_rtakeWhile_imp (List.mem_of_head? head))).1 rfl
  rw [split, read_append seamless] at start
  exact start.left

theorem clear_flatMap {α : Type} {piece : α → List Symbol} (clear : ∀ x, Clear true (piece x))
    (list : List α) : Clear true (list.flatMap piece) := by
  induction list with
  | nil => trivial
  | cons x rest ih => exact (clear x).append ih

theorem clear_placeList (first count group : Nat) : Clear true (placeList first count group) := by
  refine clear_flatMap (fun i => ?_) _
  have comma : Clear true (if i = 0 then [] else [.char ',']) := by
    split
    · trivial
    · exact clear_stops (s := [',']) (by decide) true
  have opening : Clear true (if 1 < group ∧ i % group = 0 then [.char '('] else []) := by
    split
    · exact clear_stops (s := ['(']) (by decide) true
    · trivial
  have closing : Clear true (if 1 < group ∧ (i + 1) % group = 0 then [.char ')'] else []) := by
    split
    · exact clear_stops (s := [')']) (by decide) true
    · trivial
  have place : Clear true [.place (first + i)] := trivial
  exact ((comma.append opening).append place).append closing

/-- What stands behind an expanded marker is no concern: the list ends in a parenthesis. -/
theorem clear_expandFrom (first group total : Nat) {clause : List Char} (absent : '$' ∉ clause) :
    Clear false (expandFrom first group total clause) := by
  fun_induction expandFrom first group total clause with
  | case1 => trivial
  | case2 rest ih =>
      obtain ⟨-, absent⟩ := List.ne_and_not_mem_of_not_mem_cons absent
      obtain ⟨-, absent⟩ := List.ne_and_not_mem_of_not_mem_cons absent
      exact .char (by decide) (ih absent)
  | case3 rest =>
      obtain ⟨-, absent⟩ := List.ne_and_not_mem_of_not_mem_cons absent
      have closing : Clear true (ofText (')' :: rest)) :=
        clear_stops ⟨by simp [absent], rfl⟩ true
      exact .char (by decide) (((clear_placeList first total group).weaken false).append closing)
  | case4 c rest _ _ ih =>
      obtain ⟨noSign, absent⟩ := List.ne_and_not_mem_of_not_mem_cons absent
      exact .char noSign (ih absent)

end Marker

namespace Membership

open Marker

theorem IsKeyword.seamless {negated : Bool} {keyword : List Char}
    (spelled : IsKeyword negated keyword) (a b : List Char) : Seamless a (keyword ++ b) := by
  intro _ head
  cases spelled with
  | plain isI isN =>
      obtain rfl : _ = '?' := by simpa using head
      revert isI
      decide
  | negated isN isO isT apart blank plain =>
      obtain rfl : _ = '?' := by simpa using head
      revert isN
      decide

theorem stops_keywordText (negated : Bool) : Stops (keywordText negated) := by
  cases negated <;> decide

theorem clear_clauseSymbols {clause : List Char} (legible : Legible clause) (total : Nat) :
    Clear false (clauseSymbols clause total) := by
  unfold clauseSymbols
  split
  · next m cut =>
      obtain ⟨keyword, spelled, split⟩ := ofClause?_eq_some cut
      have whole := clear_read legible
      rw [split, List.append_assoc, read_append (spelled.seamless m.left m.right)] at whole
      have left := clear_read_trim whole.left
      have absent : '$' ∉ trim m.right := by
        intro member
        have inside : '$' ∈ m.right := trim_subset m.right member
        exact legible.1 (by rw [split]; simp [inside])
      have right := clear_expandFrom (Marker.count (trim m.left)) (groupSize (trim m.left))
        (total - Marker.count (trim m.left)) absent
      rw [symbols, List.append_assoc]
      exact left.append (clear_stops_append (stops_keywordText m.negated) right true)
  · exact clear_expandFrom 0 1 total legible.1

end Membership

/-! ## Fragments -/

namespace Fragment

/-- The symbols of the fragment are clear. -/
def Clear (after : Bool) (f : Fragment) : Prop := Symbol.Clear after f.symbols

theorem Clear.append {after : Bool} {a b : Fragment} (first : a.Clear after)
    (second : b.Clear true) : (a ++ b).Clear after :=
  Symbol.Clear.append first ((clear_map_shift _ _ _).mpr second)

theorem clear_text_append {s : List Char} (stops : Stops s) {f : Fragment} (clear : f.Clear false)
    (after : Bool) : (ofText s ++ f).Clear after :=
  clear_stops_append stops ((clear_map_shift _ _ _).mpr clear) after

theorem clear_joinWith {separator : List Char} (stops : Stops separator) {fragments : List Fragment}
    (clear : ∀ f ∈ fragments, f.Clear false) : (joinWith separator fragments).Clear false := by
  fun_induction joinWith separator fragments with
  | case1 => trivial
  | case2 f => exact clear f List.mem_cons_self
  | case3 f rest _ ih =>
      obtain ⟨here, later⟩ := List.forall_mem_cons.mp clear
      rw [append_assoc]
      exact here.append (clear_text_append stops (ih later) true)

theorem clear_ofClauses {separator : List Char} (separates : Separates separator)
    (stops : Stops separator) {clauses : List Clause}
    (legible : ∀ c ∈ clauses, Marker.Legible c.clause.toList) :
    (ofClauses separator clauses).Clear false := by
  refine Marker.clear_intercalate separates stops ?_
  intro text member
  obtain ⟨c, listed, rfl⟩ := List.mem_map.mp member
  exact Marker.clear_read (legible c listed)

end Fragment

/-! ## Predicates -/

namespace Predicate

/-- The clauses of a predicate. -/
def clauses : Predicate → List String
  | .leaf _ clause _ _ => [clause]
  | _ => []

theorem clear_leafFragment (wrapped : Bool) (test : Test) {clause : String}
    (legible : Marker.Legible clause.toList) (args : List Value) :
    (leafFragment wrapped test clause args).Clear false := by
  have enclosed {body : Fragment} (clear : body.Clear false) :
      (if wrapped then Fragment.ofText ['('] ++ body ++ .ofText [')'] else body).Clear false := by
    split
    · refine (Fragment.clear_text_append (by decide) clear false).append ?_
      exact clear_stops (s := [')']) (by decide) true
    · exact clear
  have plain : (Fragment.ofClause clause.toList args).Clear false := Marker.clear_read legible
  have list : Fragment.Clear false ⟨Membership.clauseSymbols clause.toList args.length, args⟩ :=
    Membership.clear_clauseSymbols legible args.length
  have constant {s : List Char} (stops : Stops s) : (Fragment.ofText s).Clear false :=
    clear_stops stops false
  cases test with
  | plain => exact enclosed plain
  | among =>
      cases args with
      | nil => exact constant (by decide)
      | cons v rest => exact enclosed list
  | notAmong =>
      cases args with
      | nil => exact constant (by decide)
      | cons v rest => exact enclosed list

theorem stops_joiner (byOr : Bool) : Stops (joiner byOr) := by
  cases byOr <;> decide

/-- A predicate that is joined opens with its joiner, another one stands behind a text. -/
theorem clear_fragmentFrom (wrapped joined : Bool) {predicates : List Predicate}
    (legible : ∀ p ∈ predicates, ∀ clause ∈ p.clauses, Marker.Legible clause.toList) :
    (fragmentFrom wrapped joined predicates).Clear joined := by
  fun_induction fragmentFrom wrapped joined predicates with
  | case1 => trivial
  | case2 joined rest ih =>
      have later := ih (List.forall_mem_cons.mp legible).2
      exact Fragment.clear_text_append (by decide) (Symbol.Clear.weaken later false) joined
  | case3 joined byOr rest ih =>
      have later := ih (List.forall_mem_cons.mp legible).2
      have opening : Stops ((if joined then joiner byOr else []) ++ ['(']) := by
        cases joined with
        | false => exact ⟨by simp, rfl⟩
        | true => exact (stops_joiner byOr).append (by decide)
      exact Fragment.clear_text_append opening later joined
  | case4 joined test clause args byOr rest ih =>
      obtain ⟨here, others⟩ := List.forall_mem_cons.mp legible
      have later := ih others
      have leaf := clear_leafFragment wrapped test (here clause List.mem_cons_self) args
      refine Fragment.Clear.append ?_ later
      cases joined with
      | false => exact (clear_map_shift 0 false _).mpr leaf
      | true => exact Fragment.clear_text_append (stops_joiner byOr) leaf true

end Predicate

/-! ## Sections -/

namespace Query

namespace Section

/-- No text of the section has a dollar sign, and its clauses are legible. A keyword stands between
blanks. -/
def Legible : Section → Prop
  | .comment text | .lock text => '$' ∉ text.toList
  | .ctes clauses | .having clauses | .ordering clauses =>
      ∀ c ∈ clauses, Marker.Legible c.clause.toList
  | .keyword text => Stops text.toList
  | .projection text => '$' ∉ text
  | .tables entries | .grouping entries => ∀ entry ∈ entries, '$' ∉ entry.toList
  | .joins list => ∀ j ∈ list, Marker.Legible j.clause.toList
  | .assignments columns => ∀ c ∈ columns, '$' ∉ c.1.toList
  | .conditions predicates => ∀ p ∈ predicates, ∀ clause ∈ p.clauses, Marker.Legible clause.toList
  | _ => True

/-- The section may open with any character of a name. -/
def isOpen : Section → Bool
  | .projection _ | .tables _ | .assignments _ => true
  | _ => false

/-- The section is a text that closes with no place. -/
def isLead : Section → Bool
  | .keyword _ | .top _ => true
  | _ => false

theorem not_mem_natural (n : Nat) : '$' ∉ natural n := by
  intro member
  have digit : '$'.isDigit = true := Nat.isDigit_of_mem_toDigits (by decide) (by decide) member
  revert digit
  decide

theorem stops_numeral {before after : String} (stops : Stops before.toList)
    (absent : '$' ∉ after.toList) (n : Nat) : Stops (before.toList ++ natural n ++ after.toList) :=
  (stops.append (not_mem_natural n)).append absent

theorem clear_commentText {comment : String} (absent : '$' ∉ comment.toList) (after : Bool) :
    Symbol.Clear after (ofText (commentText comment)) := by
  have commented : ∀ line ∈ lines comment.toList, Stops ("-- ".toList ++ line ++ ['\n']) := by
    intro line member
    have inside : '$' ∉ line := fun sign => absent (subset_of_mem_lines member sign)
    exact (Stops.append (by decide) inside).append (by decide)
  unfold commentText
  generalize lines comment.toList = list at commented ⊢
  induction list generalizing after with
  | nil => trivial
  | cons line rest ih =>
      obtain ⟨here, later⟩ := List.forall_mem_cons.mp commented
      rw [List.flatMap_cons, ofText, List.map_append]
      exact clear_stops_append here (ih false later) after

/-- Every join stands behind its own keyword. -/
theorem clear_joinText {joins : List Join}
    (legible : ∀ j ∈ joins, Marker.Legible j.clause.toList) (after : Bool) :
    Symbol.Clear after (Marker.read (joinText joins)) := by
  induction joins generalizing after with
  | nil => trivial
  | cons j rest ih =>
      obtain ⟨here, later⟩ := List.forall_mem_cons.mp legible
      have stops : Stops (' ' :: j.kind.keyword.toList ++ [' ']) := by cases j.kind <;> decide
      rw [joinText_cons]
      refine Marker.clear_read_separator (separates_joinKeyword j.kind) stops ?_ after
      exact Marker.clear_read_append (seamless_joinText _ rest) (Marker.clear_read here)
        (ih later true)

/-- What a legible section stands for is clear; only an open one may not stand behind a place. -/
theorem clear_fragment {d : Dialect} (opening : '$' ≠ d.quotes.opening)
    (closing : '$' ≠ d.quotes.closing) {s : Section} (legible : s.Legible) :
    (s.fragment d).Clear (!s.isOpen) := by
  have quoted {text : List Char} (absent : '$' ∉ text) : '$' ∉ d.quote text :=
    Quotes.not_mem_quote opening closing (by decide) (by decide) absent
  have comma : Stops [',', ' '] := by decide
  cases s with
  | comment text => exact clear_commentText legible true
  | ctes clauses =>
      refine Fragment.Clear.append (Fragment.clear_text_append (by decide) ?_ true) ?_
      · exact Fragment.clear_ofClauses separates_comma comma legible
      · exact clear_stops (s := [' ']) (by decide) true
  | keyword text => exact clear_stops legible true
  | top n => exact clear_stops (stops_numeral (by decide) (by decide) n) true
  | projection text => exact clear_ofText legible
  | tables entries =>
      refine clear_ofText (List.not_mem_intercalate (by decide) ?_)
      intro piece member
      simp only [Dialect.quoteAll, List.map_map, List.mem_map] at member
      obtain ⟨entry, listed, rfl⟩ := member
      exact quoted (legible entry listed)
  | joins list => exact clear_joinText legible true
  | assignments columns =>
      refine Fragment.clear_joinWith comma ?_
      intro f member
      obtain ⟨column, listed, rfl⟩ := List.mem_map.mp member
      have place : (Fragment.ofValue column.2).Clear true := trivial
      refine Fragment.Clear.append (clear_ofText ?_) place
      simpa using quoted (legible column listed)
  | conditions predicates =>
      exact Fragment.clear_text_append (by decide)
        (Predicate.clear_fragmentFrom _ false legible) true
  | grouping clauses =>
      refine clear_stops (Stops.append (by decide) (List.not_mem_intercalate (by decide) ?_)) true
      intro piece member
      obtain ⟨entry, listed, rfl⟩ := List.mem_map.mp member
      exact legible entry listed
  | having clauses =>
      exact Fragment.clear_text_append (by decide)
        (Fragment.clear_ofClauses separates_and (by decide) legible) true
  | ordering clauses =>
      exact Fragment.clear_text_append (by decide)
        (Fragment.clear_ofClauses separates_comma comma legible) true
  | anyOrder => exact clear_stops (by decide) true
  | limit n => exact clear_stops (stops_numeral (by decide) (by decide) n) true
  | offset n => exact clear_stops (stops_numeral (by decide) (by decide) n) true
  | skipRows n => exact clear_stops (stops_numeral (by decide) (by decide) n) true
  | fetchRows n => exact clear_stops (stops_numeral (by decide) (by decide) n) true
  | lock text => exact clear_stops (Stops.append (by decide) legible) true

/-- Open sections stand behind leads only; `led` tells that a lead stands right before the sections. -/
def Placed : (led : Bool) → List Section → Prop
  | _, [] => True
  | led, s :: rest => (s.isOpen = true → led = true) ∧ Placed s.isLead rest

theorem Placed.keyword (text : String) {rest : List Section} (placed : Placed true rest)
    (led : Bool) : Placed led (.keyword text :: rest) :=
  ⟨fun opens => absurd opens Bool.false_ne_true, placed⟩

/-- Legible sections in their places are clear together. -/
theorem clear_concat {d : Dialect} (opening : '$' ≠ d.quotes.opening)
    (closing : '$' ≠ d.quotes.closing) {led : Bool} {sections : List Section}
    (legible : ∀ s ∈ sections, s.Legible) (placed : Placed led sections) :
    (Fragment.concat (sections.map (fragment d))).Clear (!led) := by
  induction sections generalizing led with
  | nil => trivial
  | cons s rest ih =>
      obtain ⟨here, others⟩ := List.forall_mem_cons.mp legible
      obtain ⟨leads, placed⟩ := placed
      have later := ih others placed
      show (s.fragment d ++ Fragment.concat (rest.map (fragment d))).Clear (!led)
      cases lead : s.isLead with
      | true =>
          -- the text of a lead parts what follows from what stands before it
          rw [lead] at later
          cases s with
          | keyword text => exact Fragment.clear_text_append here later (!led)
          | top n =>
              exact Fragment.clear_text_append (stops_numeral (by decide) (by decide) n) later (!led)
          | _ => cases lead
      | false =>
          rw [lead] at later
          have clear := clear_fragment opening closing here
          refine Fragment.Clear.append ?_ later
          cases opens : s.isOpen with
          | true =>
              rw [leads opens]
              rwa [opens] at clear
          | false =>
              rw [opens] at clear
              exact Symbol.Clear.weaken clear (!led)

theorem Placed.weaken {sections : List Section} (placed : Placed false sections) (led : Bool) :
    Placed led sections := by
  cases sections with
  | nil => trivial
  | cons s rest => exact ⟨fun opens => absurd (placed.1 opens) (by decide), placed.2⟩

theorem placed_append {a b : List Section} (closed : ∀ s ∈ a, s.isOpen = false)
    (placed : Placed false b) (led : Bool) : Placed led (a ++ b) := by
  induction a generalizing led with
  | nil => exact placed.weaken led
  | cons s rest ih =>
      obtain ⟨here, later⟩ := List.forall_mem_cons.mp closed
      exact ⟨fun opens => absurd (here.symm.trans opens) Bool.false_ne_true, ih later s.isLead⟩

theorem placed_of_closed {sections : List Section} (closed : ∀ s ∈ sections, s.isOpen = false)
    (led : Bool) : Placed led sections := by
  have nothing : Placed false [] := trivial
  have placed := placed_append closed nothing led
  rwa [List.append_nil] at placed

end Section

/-- No text of the query has a dollar sign, and no marker of a clause meets a digit. -/
structure Legible (q : Query) : Prop where
  opening : '$' ≠ q.dialect.quotes.opening
  closing : '$' ≠ q.dialect.quotes.closing
  columns : ∀ column ∈ q.columns, '$' ∉ column.toList
  tables : ∀ entry ∈ q.tables, '$' ∉ entry.toList
  grouping : ∀ clause ∈ q.grouping, '$' ∉ clause.toList
  distinct : ∀ expression ∈ q.distinct, '$' ∉ expression.toList
  lock : ∀ text ∈ q.lock, '$' ∉ text.toList
  comment : ∀ text ∈ q.comment, '$' ∉ text.toList
  assigned : ∀ columns, q.statement = .update columns → ∀ c ∈ columns, '$' ∉ c.1.toList
  ctes : ∀ c ∈ q.ctes, Marker.Legible c.clause.toList
  joins : ∀ j ∈ q.joins, Marker.Legible j.clause.toList
  conditions : ∀ p ∈ q.conditions, ∀ clause ∈ p.clauses, Marker.Legible clause.toList
  having : ∀ c ∈ q.having, Marker.Legible c.clause.toList
  ordering : ∀ c ∈ q.ordering, Marker.Legible c.clause.toList

/-- A section that is legible and may stand behind any other. -/
def Section.Fits (s : Section) : Prop := s.Legible ∧ s.isOpen = false

section Layout

variable {q : Query} (legible : q.Legible)

include legible

theorem fits_preamble : ∀ s ∈ q.preamble, s.Fits := by
  refine List.forall_mem_append.mpr ⟨forall_mem_option ?_, forall_mem_unlessEmpty ?_⟩
  · exact fun text member => ⟨legible.comment text member, rfl⟩
  · exact ⟨legible.ctes, rfl⟩

omit legible in
theorem fits_window : ∀ s ∈ q.window, s.Fits := by
  unfold window
  split
  · split
    · simp
    · simp only [List.forall_mem_append]
      refine ⟨⟨?_, ?_⟩, forall_mem_option fun n _ => ⟨trivial, rfl⟩⟩
      · split
        · exact List.forall_mem_singleton.mpr ⟨trivial, rfl⟩
        · simp
      · exact List.forall_mem_singleton.mpr ⟨trivial, rfl⟩
  · refine List.forall_mem_append.mpr ⟨forall_mem_option fun n _ => ⟨trivial, rfl⟩, ?_⟩
    split
    · simp
    · exact List.forall_mem_singleton.mpr ⟨trivial, rfl⟩

theorem fits_tail : ∀ s ∈ q.tail, s.Fits := by
  have conditions : ∀ s ∈ unlessEmpty q.conditions .conditions, s.Fits :=
    forall_mem_unlessEmpty ⟨legible.conditions, rfl⟩
  have grouping : ∀ s ∈ unlessEmpty q.grouping .grouping, s.Fits :=
    forall_mem_unlessEmpty ⟨legible.grouping, rfl⟩
  have groups : ∀ s ∈ unlessEmpty q.having .having, s.Fits :=
    forall_mem_unlessEmpty ⟨legible.having, rfl⟩
  have ordering : ∀ s ∈ unlessEmpty q.ordering .ordering, s.Fits :=
    forall_mem_unlessEmpty ⟨legible.ordering, rfl⟩
  have lock : ∀ s ∈ (q.lock.map Section.lock).toList, s.Fits :=
    forall_mem_option fun text member => ⟨legible.lock text member, rfl⟩
  simp only [tail, modifiers, List.forall_mem_append]
  exact ⟨conditions, ⟨⟨⟨grouping, groups⟩, ordering⟩, fits_window⟩, lock⟩

theorem not_mem_aliased {column : List Char} (absent : '$' ∉ column) :
    '$' ∉ aliased q.dialect column := by
  have quoted : '$' ∉ q.dialect.quote column :=
    Quotes.not_mem_quote legible.opening legible.closing (by decide) (by decide) absent
  have full : '$' ∉ q.dialect.quotes.enclose (q.dialect.quotes.unquote column) :=
    Quotes.not_mem_enclose legible.opening legible.closing
      (Quotes.not_mem_unquote (by decide) absent)
  unfold aliased
  split
  · exact quoted
  · simp [quoted, full]

theorem not_mem_stars {tables stars : List (List Char)} (absent : ∀ entry ∈ tables, '$' ∉ entry)
    (starred : stars? q.dialect tables = some stars) : ∀ star ∈ stars, '$' ∉ star := by
  induction tables generalizing stars with
  | nil =>
      obtain rfl : [] = stars := by simpa [stars?] using starred
      simp
  | cons entry rest ih =>
      obtain ⟨here, later⟩ := List.forall_mem_cons.mp absent
      simp only [stars?, List.mapM_cons, Option.bind_eq_bind, Option.bind_eq_some_iff,
        Option.map_eq_some_iff, Option.pure_def, Option.some.injEq] at starred
      obtain ⟨star, ⟨t, parsed, rfl⟩, others, listed, rfl⟩ := starred
      have qualifier := TableSource.not_mem_qualifier (by decide) here parsed
      have quoted : '$' ∉ q.dialect.quote t.qualifier :=
        Quotes.not_mem_quote legible.opening legible.closing (by decide) (by decide) qualifier
      refine List.forall_mem_cons.mpr ⟨?_, ih later listed⟩
      simp [quoted]

theorem not_mem_selection : '$' ∉ q.selection := by
  have quoted {text : List Char} (absent : '$' ∉ text) : '$' ∉ q.dialect.quote text :=
    Quotes.not_mem_quote legible.opening legible.closing (by decide) (by decide) absent
  have joined {texts : List (List Char)} (absent : ∀ text ∈ texts, '$' ∉ text) :
      '$' ∉ listed texts := List.not_mem_intercalate (by decide) absent
  have columns : ∀ text ∈ q.columns.map String.toList, '$' ∉ text :=
    List.forall_mem_map.mpr legible.columns
  have tables : ∀ text ∈ q.tables.map String.toList, '$' ∉ text :=
    List.forall_mem_map.mpr legible.tables
  unfold selection
  dsimp only
  split
  · next expression same =>
      have absent := legible.distinct expression same
      cases q.counting with
      | false => simp [absent]
      | true => simp [quoted absent]
  · split
    · split
      · exact joined (List.forall_mem_map.mpr fun text member =>
          not_mem_aliased legible (columns text member))
      · exact joined (List.forall_mem_map.mpr fun text member => quoted (columns text member))
    · split
      · split
        · next stars starred => exact joined (not_mem_stars legible tables starred)
        · decide
      · decide

theorem not_mem_projection : '$' ∉ q.projection := by
  have selection := not_mem_selection legible
  unfold projection
  split
  · simp [selection]
  · exact selection

/-- A statement is as its middle, whatever stands before and after. -/
theorem fits_around {middle : List Section} (good : ∀ s ∈ middle, s.Legible)
    (placed : ∀ rest, Section.Placed false rest → Section.Placed false (middle ++ rest)) :
    (∀ s ∈ q.preamble ++ (middle ++ q.tail), s.Legible) ∧
      Section.Placed false (q.preamble ++ (middle ++ q.tail)) := by
  have before := fits_preamble legible
  have after := fits_tail legible
  constructor
  · simp only [List.forall_mem_append]
    exact ⟨fun s member => (before s member).1, good, fun s member => (after s member).1⟩
  · have tail := Section.placed_of_closed (fun s member => (after s member).2) false
    exact Section.placed_append (fun s member => (before s member).2) (placed q.tail tail) false

/-- What stands between the preamble and the conditions of a SELECT. -/
def selectMiddle (q : Query) : List Section :=
  .keyword "SELECT " :: (q.head ++ .projection q.projection :: .keyword " FROM " ::
    .tables q.tables :: unlessEmpty q.joins .joins)

theorem legible_selectMiddle : ∀ s ∈ q.selectMiddle, s.Legible := by
  have head : ∀ s ∈ q.head, s.Legible := by
    unfold head
    split
    · exact forall_mem_option fun n _ => trivial
    · simp
  have joins : ∀ s ∈ unlessEmpty q.joins .joins, s.Legible := forall_mem_unlessEmpty legible.joins
  have select : Stops "SELECT ".toList := by decide
  have source : Stops " FROM ".toList := by decide
  simp only [selectMiddle, List.forall_mem_append, List.forall_mem_cons]
  exact ⟨select, head, not_mem_projection legible, source, legible.tables, joins⟩

omit legible in
theorem placed_selectMiddle {rest : List Section} (placed : Section.Placed false rest) :
    Section.Placed false (q.selectMiddle ++ rest) := by
  have joins : ∀ s ∈ unlessEmpty q.joins .joins, s.isOpen = false := forall_mem_unlessEmpty rfl
  have tables : Section.Placed true (.tables q.tables :: (unlessEmpty q.joins .joins ++ rest)) :=
    ⟨fun _ => rfl, Section.placed_append joins placed false⟩
  have body : Section.Placed true (.projection q.projection :: .keyword " FROM " ::
      .tables q.tables :: (unlessEmpty q.joins .joins ++ rest)) :=
    ⟨fun _ => rfl, tables.keyword " FROM " false⟩
  rw [selectMiddle, List.cons_append, List.append_assoc]
  refine Section.Placed.keyword "SELECT " ?_ false
  unfold head
  split
  · cases q.limit with
    | none => exact body
    | some n => exact ⟨fun _ => rfl, body⟩
  · exact body

/-- The sections of each kind of statement are legible, and in their places. -/
theorem fits_layout : (∀ s ∈ q.layout, s.Legible) ∧ Section.Placed false q.layout := by
  have select : (∀ s ∈ q.selectLayout, s.Legible) ∧ Section.Placed false q.selectLayout := by
    have split : q.selectLayout = q.preamble ++ (q.selectMiddle ++ q.tail) := by
      simp [selectLayout, selectMiddle]
    rw [split]
    exact fits_around legible (legible_selectMiddle legible) fun _ => placed_selectMiddle
  have after {rest : List Section} (placed : Section.Placed false rest) :
      Section.Placed true (.tables q.tables :: rest) := ⟨fun _ => rfl, placed⟩
  unfold layout
  split
  · exact ⟨by simp, trivial⟩
  · have split : q.deleteLayout =
        q.preamble ++ ([.keyword "DELETE FROM ", .tables q.tables] ++ q.tail) := by
      simp [deleteLayout]
    have keyword : Stops "DELETE FROM ".toList := by decide
    have good : ∀ s ∈ [Section.keyword "DELETE FROM ", .tables q.tables], s.Legible := by
      simp only [List.forall_mem_cons]
      exact ⟨keyword, legible.tables, by simp⟩
    rw [split]
    exact fits_around legible good fun rest placed => (after placed).keyword "DELETE FROM " false
  · next column columns kind =>
      have split : q.updateLayout (column :: columns) = q.preamble ++ ([.keyword "UPDATE ",
          .tables q.tables, .keyword " SET ", .assignments (column :: columns)] ++ q.tail) := by
        simp [updateLayout]
      have keyword : Stops "UPDATE ".toList := by decide
      have setting : Stops " SET ".toList := by decide
      have good : ∀ s ∈ [Section.keyword "UPDATE ", .tables q.tables, .keyword " SET ",
          .assignments (column :: columns)], s.Legible := by
        simp only [List.forall_mem_cons]
        exact ⟨keyword, legible.tables, setting, legible.assigned _ kind, by simp⟩
      rw [split]
      refine fits_around legible good fun rest placed => ?_
      have assigned : Section.Placed true (.assignments (column :: columns) :: rest) :=
        ⟨fun _ => rfl, placed⟩
      exact (after (assigned.keyword " SET " false)).keyword "UPDATE " false
  · exact select
  · exact select

end Layout

/-- **A numbered statement is the unnumbered one with numbers.** -/
theorem numbers_taken_out {q : Query} (built : q.IsBuilt) (legible : q.Legible)
    (numbered : q.dialect.numbered = true) {plain : Dialect}
    (quotes : plain.quotes = q.dialect.quotes) (topRows : plain.topRows = q.dialect.topRows)
    (unnumbered : plain.numbered = false) :
    (q.apply (.setDialect plain)).render.args = q.render.args ∧
      (q.apply (.setDialect plain)).render.sql.toList = Text.unnumbered q.render.sql.toList := by
  have renamed : plain = { q.dialect with numbered := false } := by
    cases plain
    simp only [Dialect.mk.injEq]
    exact ⟨quotes, unnumbered, topRows⟩
  subst renamed
  have plainBuilt : (q.apply (.setDialect { q.dialect with numbered := false })).IsBuilt := built
  have fragment : Section.fragment { q.dialect with numbered := false } =
      Section.fragment q.dialect := by
    funext s
    cases s <;> rfl
  have plainRender : (q.apply (.setDialect { q.dialect with numbered := false })).render =
      (Fragment.concat (q.layout.map (Section.fragment q.dialect)) ++ .ofText [';']).render false := by
    rw [render_of_isBuilt plainBuilt, ← fragment]
    rfl
  obtain ⟨good, placed⟩ := fits_layout legible
  have ends : (Fragment.ofText [';']).Clear true := clear_stops (by decide) true
  have clear := (Section.clear_concat legible.opening legible.closing good placed).append ends
  have same := unnumberedFrom_render (Symbol.Clear.weaken clear false) 1
  rw [plainRender, render_of_isBuilt built, renderLayout, numbered]
  refine ⟨rfl, ?_⟩
  rw [Fragment.render, Fragment.render, String.toList_ofList, String.toList_ofList]
  exact same.symm

/-- An UPDATE of a quoted column, with a list to be expanded and an escaped mark before a digit. -/
def mixedUpdate : Query :=
  (empty .postgres).applyAll
    [.appendFrom "t", .setUpdate [("a.b", .int 1)], .setComment "no?",
      .appendLeaf .among "(c, d) IN ?" [.int 2, .int 3], .appendLeaf .plain "e \\?0 ?" [.int 4]]

theorem mixedUpdate_plain :
    mixedUpdate.render.sql =
      "-- no?\nUPDATE \"t\" SET \"a\".\"b\" = $1 WHERE ((c, d) IN (($2,$3))) AND (e ?0 $4);" ∧
    (mixedUpdate.apply (.setDialect .sqlite)).render.sql.toList =
      "-- no?\nUPDATE \"t\" SET \"a\".\"b\" = ? WHERE ((c, d) IN ((?,?))) AND (e ?0 ?);".toList := by
  have text : mixedUpdate.render.sql =
      "-- no?\nUPDATE \"t\" SET \"a\".\"b\" = $1 WHERE ((c, d) IN (($2,$3))) AND (e ?0 $4);" := by
    decide
  have built : mixedUpdate.IsBuilt := fun _ _ => nofun
  have assigned : ∀ columns, mixedUpdate.statement = .update columns →
      ∀ c ∈ columns, '$' ∉ c.1.toList := by
    intro columns same
    cases same
    decide
  have comment : ∀ text ∈ mixedUpdate.comment, '$' ∉ text.toList := by
    intro text member
    cases member
    decide
  have legible : mixedUpdate.Legible :=
    ⟨by decide, by decide, by decide, by decide, by decide, nofun, nofun, comment, assigned, nofun,
      nofun, by decide, nofun, nofun⟩
  have quotes : Dialect.sqlite.quotes = mixedUpdate.dialect.quotes := rfl
  obtain ⟨-, plain⟩ := numbers_taken_out built legible rfl quotes rfl rfl
  refine ⟨text, ?_⟩
  rw [plain, text]
  decide

end Query

end QueryBind
