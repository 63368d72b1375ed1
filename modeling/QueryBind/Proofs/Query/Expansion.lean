/-
# QueryBind.Proofs.Query.Expansion — what an expanded list is like for any number of arguments

The first marker right of the keyword is replaced by a list of the arguments that the left side
does not take (`Membership.listed`), in groups as wide as the left side. A clause that is balanced as
it is written stays so, but for what the list leaves open:

* everything but the list keeps its parentheses (`Marker.depthAfter_expandFrom`), and the list opens
  a group at every multiple of the width and closes the whole ones;
* so one parenthesis stays open just when the last group is not full
  (`Membership.depthAfter_clauseSymbols`);
* the list is empty just when the left side takes all the arguments
  (`Marker.render_placeList_eq_nil_iff`).

`Predicate.list_expanded` has them together, for every test that has arguments.
-/
import QueryBind.Proofs.Query.Tuples

namespace QueryBind

set_option autoImplicit false

open QueryBind.Symbol Text

/-! ## The first marker -/

namespace Marker

/-- A text is cut at its first marker. -/
structure FirstMarker (clause before after : List Char) : Prop where
  split : clause = before ++ '?' :: after
  /-- The question mark belongs to no escape. -/
  seamless : Seamless before ('?' :: after)
  unmarked : hasMarker before = false

theorem exists_firstMarker {clause : List Char} (marked : hasMarker clause = true) :
    ∃ before after, FirstMarker clause before after := by
  fun_induction hasMarker clause with
  | case1 => cases marked
  | case2 rest ih =>
      obtain ⟨before, after, split, seamless, unmarked⟩ := ih marked
      refine ⟨'\\' :: '?' :: before, after, by simp [split], ?_, unmarked⟩
      cases before with
      | nil => simp [Seamless]
      | cons d before => simpa [Seamless] using seamless
  | case3 rest => exact ⟨[], rest, rfl, by simp [Seamless], rfl⟩
  | case4 c rest noEscape notMarker ih =>
      obtain ⟨before, after, rfl, seamless, unmarked⟩ := ih marked
      refine ⟨c :: before, after, rfl, ?_, ?_⟩
      · cases before with
        | nil => exact seamless_of_noEscape noEscape
        | cons d before => simpa [Seamless] using seamless
      · rw [hasMarker]
        · exact unmarked
        · rintro tail rfl rfl
          exact noEscape _ rfl rfl
        · exact notMarker

/-- A character that is no marker and starts no escape is kept. -/
theorem expandFrom_char {c : Char} {rest : List Char} (notMarker : c ≠ '?')
    (seamless : Seamless [c] rest) (first group total : Nat) :
    expandFrom first group total (c :: rest) = .char c :: expandFrom first group total rest := by
  rw [expandFrom]
  · rintro tail rfl rfl
    exact seamless rfl rfl
  · exact notMarker

/-- The list stands where the first marker stood. -/
theorem FirstMarker.expandFrom_eq {clause before after : List Char}
    (marker : FirstMarker clause before after) (first group total : Nat) :
    expandFrom first group total clause =
      read before ++ .char '(' :: placeList first total group ++ .char ')' :: ofText after := by
  obtain ⟨rfl, seamless, unmarked⟩ := marker
  fun_induction hasMarker before with
  | case1 => rfl
  | case2 rest ih =>
      have later := ih seamless.tail.tail unmarked
      simp only [List.cons_append, expandFrom, read, readFrom] at later ⊢
      rw [later]
  | case3 => cases unmarked
  | case4 c rest noEscape notMarker ih =>
      -- the character starts an escape neither inside the text nor at the marker
      have inside : Seamless [c] rest := seamless_of_noEscape noEscape
      have kept : read (c :: rest) = .char c :: read rest := readFrom_char notMarker inside 0
      rw [List.cons_append, expandFrom_char notMarker (inside.append seamless),
        ih seamless.tail unmarked, kept]
      rfl

/-! ## What a list leaves open -/

theorem groupDepth_eq_add (group depth i : Nat) :
    groupDepth group depth i = depth + groupDepth group 0 i := by
  unfold groupDepth
  split <;> omega

/-- A group is open after a list of places unless the last one is full. -/
theorem groupDepth_zero {group : Nat} (wide : 1 ≤ group) (count : Nat) :
    groupDepth group 0 count = if group ∣ count then 0 else 1 := by
  by_cases whole : group ∣ count
  · simp [groupDepth, whole, Nat.mod_eq_zero_of_dvd whole]
  · have partly : count % group ≠ 0 := fun full => whole (Nat.dvd_of_mod_eq_zero full)
    have several : 1 < group := by
      by_contra single
      obtain rfl : group = 1 := by omega
      exact whole (Nat.one_dvd count)
    simp [groupDepth, whole, partly, several]

/-- The list in place of the marker leaves its last group open, unless that is full. -/
theorem depthAfter_expandFrom {clause : List Char} (marked : hasMarker clause = true)
    {depth ending : Nat} (ends : depthAfter depth clause = some ending) (numbered : Bool)
    (start first group total : Nat) :
    depthAfter depth (render numbered start (expandFrom first group total clause)) =
      some (groupDepth group ending total) := by
  obtain ⟨before, after, marker⟩ := exists_firstMarker marked
  have text : render numbered start (expandFrom first group total clause) =
      render numbered start (read before) ++
        '(' :: (render numbered start (placeList first total group) ++ ')' :: after) := by
    rw [marker.expandFrom_eq, render_append, render_append, render_char, render_char,
      render_ofText]
    simp
  rw [marker.split, depthAfter_append] at ends
  obtain ⟨reached, head, tail⟩ := Option.bind_eq_some_iff.mp ends
  rw [depthAfter_other (by decide) (by decide)] at tail
  have left : depthAfter depth (render numbered start (read before)) = some reached :=
    (keepsDepth_readFrom 0 before numbered start depth).trans head
  have list : groupDepth group (reached + 1) total = reached + groupDepth group 0 total + 1 := by
    rw [groupDepth_eq_add]
    omega
  -- the group that is left open adds to every depth behind the list
  rw [text, depthAfter_append, left, Option.bind_some, depthAfter_open, depthAfter_append,
    depthAfter_placeList, Option.bind_some, list, depthAfter_close, depthAfter_add tail,
    groupDepth_eq_add group ending]

theorem render_placeList_eq_nil_iff (numbered : Bool) (start first count group : Nat) :
    render numbered start (placeList first count group) = [] ↔ count = 0 := by
  constructor
  · intro empty
    cases count with
    | zero => rfl
    | succ n =>
        obtain ⟨rest, starts⟩ := exists_placeList_succ first n group
        have place : Symbol.text numbered start (.place first) ≠ [] := by
          cases numbered <;> simp [Symbol.text, Dialect.placeText]
        rw [starts, render_append] at empty
        exact absurd (List.append_eq_nil_iff.mp (List.append_eq_nil_iff.mp empty).2).1 place
  · rintro rfl
    rfl

end Marker

/-! ## Expanded clauses -/

namespace Membership

theorem groupSize_pos (left : List Char) : 1 ≤ groupSize left := by
  unfold groupSize
  split
  · rw [List.length_splitOn]
    exact Nat.le_add_left 1 _
  · exact le_rfl

/-- How many of `total` arguments are left for the list. -/
def listed (m : Membership) (total : Nat) : Nat := total - Marker.count (trim m.left)

/-- The text of a cut clause whose list is written as `list` between `before` and `after`. -/
def expandedText (m : Membership) (numbered : Bool) (start : Nat) (before list after : List Char) :
    List Char :=
  render numbered start (Marker.read (trim m.left)) ++ keywordText m.negated ++
    (render numbered start (Marker.read before) ++ '(' :: (list ++ ')' :: after))

/-- A cut clause is its left side, the keyword in capitals and the right side with its list. -/
theorem render_symbols {m : Membership} {before after : List Char}
    (marker : Marker.FirstMarker (trim m.right) before after) (total : Nat) (numbered : Bool)
    (start : Nat) :
    render numbered start (m.symbols total) =
      m.expandedText numbered start before (render numbered start
        (Marker.placeList (Marker.count (trim m.left)) (m.listed total)
          (groupSize (trim m.left)))) after := by
  simp only [symbols, marker.expandFrom_eq, render_append, render_ofText, render_char,
    expandedText, listed, List.append_assoc, List.cons_append]

/-- A balanced clause with its list expanded has one parenthesis open when the last group of the
list is not full, and none otherwise. -/
theorem depthAfter_clauseSymbols {clause : List Char} {m : Membership}
    (cut : ofClause? clause = some m) (marked : Marker.hasMarker m.right = true)
    (balanced : Balanced clause) (total : Nat) (numbered : Bool) (start : Nat) :
    depthAfter 0 (render numbered start (clauseSymbols clause total)) =
      some (if groupSize (trim m.left) ∣ m.listed total then 0 else 1) := by
  obtain ⟨keyword, spelled, rfl⟩ := ofClause?_eq_some cut
  have whole : depthAfter 0 (m.left ++ keyword ++ m.right) = some 0 := balanced
  rw [depthAfter_append, depthAfter_append] at whole
  obtain ⟨reached, head, right⟩ := Option.bind_eq_some_iff.mp whole
  obtain ⟨opened, left, key⟩ := Option.bind_eq_some_iff.mp head
  obtain rfl : opened = reached := by simpa [spelled.depthAfter] using key
  have leftText : depthAfter 0 (render numbered start (Marker.read (trim m.left))) = some opened := by
    rw [Marker.read, Marker.keepsDepth_readFrom, depthAfter_trim, left]
  have rightText := Marker.depthAfter_expandFrom (by rwa [Marker.hasMarker_trim])
    ((depthAfter_trim opened m.right).trans right) numbered start
    (Marker.count (trim m.left)) (groupSize (trim m.left)) (m.listed total)
  rw [clauseSymbols, cut]
  simp only [symbols, render_append, render_ofText, depthAfter_append, leftText, Option.bind_some,
    depthAfter_keywordText]
  exact rightText.trans (congrArg _ (Marker.groupDepth_zero (groupSize_pos _) _))

end Membership

/-! ## Rendered tests -/

namespace Predicate

open Condition QueryBind.Membership

/-- A test with arguments is its expanded clause, between parentheses if it is to be wrapped. -/
theorem render_leafFragment_member {test : Test} (member : test ≠ .plain) {args : List Value}
    (given : args ≠ []) (numbered wrapped : Bool) (start : Nat) (clause : String) :
    render numbered start (leafFragment wrapped test clause args).symbols =
      (if wrapped then ['('] else []) ++
        render numbered start (clauseSymbols clause.toList args.length) ++
        (if wrapped then [')'] else []) := by
  have nonempty : args.isEmpty = false := by simpa using given
  rw [render_leafFragment, leafText]
  cases wrapped <;> simp [member, nonempty]

/-- Parentheses around a text close what they open. -/
theorem depthAfter_wrapped (wrapped : Bool) {text : List Char} {ending : Nat}
    (ends : depthAfter 0 text = some ending) :
    depthAfter 0 ((if wrapped then ['('] else []) ++ text ++ (if wrapped then [')'] else [])) =
      some ending := by
  cases wrapped with
  | false => simpa using ends
  | true =>
      have inside : depthAfter 1 text = some (ending + 1) := by simpa using depthAfter_add ends 1
      simp [depthAfter_append, inside]

/-- **An expanded list is well formed when it is made of full groups, one at least.** The first
marker right of the keyword gives way to the list of the arguments that the left side leaves, from
the first such argument on and in groups as wide as the left side. A test whose clause is balanced is
balanced when the last group is full, and else leaves one parenthesis open. The list is empty when
the left side takes all the arguments. -/
theorem list_expanded {clause : String} {m : Membership}
    (cut : ofClause? clause.toList = some m) (marked : Marker.hasMarker m.right = true)
    (balanced : Balanced clause.toList) {test : Test} (member : test ≠ .plain) {args : List Value}
    (given : args ≠ []) (numbered wrapped : Bool) (start : Nat) :
    ∃ before list after,
      Marker.FirstMarker (trim m.right) before after ∧
      list = render numbered start (Marker.placeList (Marker.count (trim m.left))
        (m.listed args.length) (groupSize (trim m.left))) ∧
      render numbered start (leafFragment wrapped test clause args).symbols =
        (if wrapped then ['('] else []) ++ m.expandedText numbered start before list after ++
          (if wrapped then [')'] else []) ∧
      depthAfter 0 (render numbered start (leafFragment wrapped test clause args).symbols) =
        some (if groupSize (trim m.left) ∣ m.listed args.length then 0 else 1) ∧
      (list = [] ↔ args.length ≤ Marker.count (trim m.left)) := by
  have trimmed : Marker.hasMarker (trim m.right) = true := by rwa [Marker.hasMarker_trim]
  obtain ⟨before, after, marker⟩ := Marker.exists_firstMarker trimmed
  have text := render_leafFragment_member member given numbered wrapped start clause
  refine ⟨before, _, after, marker, rfl, ?_, ?_, ?_⟩
  · rw [text, clauseSymbols, cut]
    simp only [render_symbols marker]
  · rw [text]
    exact depthAfter_wrapped wrapped
      (depthAfter_clauseSymbols cut marked balanced args.length numbered start)
  · rw [Marker.render_placeList_eq_nil_iff, listed, Nat.sub_eq_zero_iff_le]

theorem sumTest_balanced :
    ∃ list,
      Balanced (render true 3 (leafFragment true .among "(a, b + ?) in ?"
        [.int 1, .int 2, .int 3, .int 4, .int 5]).symbols) ∧
      list ≠ [] ∧ list = "($4,$5),($6,$7)".toList := by
  have cut : ofClause? "(a, b + ?) in ?".toList =
      some ⟨"(a, b + ?) ".toList, false, " ?".toList⟩ := by decide
  have member : Test.among ≠ .plain := by decide
  have given : [Value.int 1, .int 2, .int 3, .int 4, .int 5] ≠ [] := List.cons_ne_nil _ _
  obtain ⟨before, list, after, marker, written, text, depth, empty⟩ :=
    list_expanded cut (by decide) (by decide) member given true true 3
  refine ⟨list, depth.trans (by decide), fun nothing => ?_, written.trans (by decide)⟩
  exact absurd (empty.mp nothing) (by decide)

/-- A test of two columns against three values. -/
def raggedTest : Query :=
  (Query.empty .postgres).applyAll
    [.appendFrom "t", .appendLeaf .among "(a, b) IN ?" [.int 1, .int 2, .int 3]]

/-- A test whose left side takes the only value. -/
def spentTest : Query :=
  (Query.empty .postgres).applyAll [.appendFrom "t", .appendLeaf .among "? IN ?" [.int 1]]

/-- The second group is never closed, and no value is left for the list. -/
theorem raggedTest_unclosed :
    (∀ clause ∈ ["(a, b) IN ?", "? IN ?"], Balanced clause.toList ∧
      (ofClause? clause.toList).any (fun m => Marker.hasMarker m.right) = true) ∧
    raggedTest.render.sql = "SELECT * FROM \"t\" WHERE ((a, b) IN (($1,$2),($3));" ∧
    ¬ Balanced raggedTest.render.sql.toList ∧
    spentTest.render.sql = "SELECT * FROM \"t\" WHERE ($1 IN ());" := by
  refine ⟨by decide, by decide, by decide, by decide⟩

end Predicate

end QueryBind
