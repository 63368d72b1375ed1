/-
# QueryBind.Proofs.Query.Keyword — the clause of a list is cut at its first keyword

The keyword of a clause is found by a pattern of three parts, a left side that ends in a delimiter, the
keyword, and a right side that starts with one (`Membership.splits`). The left side is tried shortest
first, so what counts is the first place where the other two parts match.

At one place the pattern matches in one way at most (`Membership.head?_splitsAt`), so the search that
goes along the clause finds the same split as the pattern (`Membership.map_split?`). It gets no further
than any keyword with delimiters (`Membership.cut?_reaches`): the split is at the first of them
(`Membership.split?_eq_some_iff`).

A later NOT IN does not overlap the first keyword, since no N stands behind a delimiter inside a keyword
(`Membership.IsKeyword.isChain`). It stands whole on the right side (`Membership.Delimited.kept`) and is
written as it is spelled (`Membership.Split.rightText_keyword`), before the list or behind it.
-/
import Mathlib.Data.List.Chain
import QueryBind.Proofs.Query.Escapes
import QueryBind.Proofs.Text.Pattern

namespace QueryBind

set_option autoImplicit false

open QueryBind.Symbol Text

/-! ## Trimming -/

namespace Text

theorem trimStart_append_cons (a : List Char) {c : Char} (notBlank : isBlank c = false)
    (b : List Char) : trimStart (a ++ c :: b) = trimStart a ++ c :: b := by
  have stops : (c :: b).dropWhile isBlank = c :: b :=
    List.dropWhile_cons_of_neg (by simp [notBlank])
  rw [trimStart, trimStart, List.dropWhile_append, stops]
  split
  · next empty => rw [List.isEmpty_iff.mp empty, List.nil_append]
  · rfl

theorem trimEnd_concat_append (a : List Char) {c : Char} (notBlank : isBlank c = false)
    (b : List Char) : trimEnd (a ++ [c] ++ b) = a ++ [c] ++ trimEnd b := by
  have start := trimStart_append_cons b.reverse notBlank a.reverse
  simp only [trimStart] at start
  simp [trimEnd, start]

end Text

namespace Membership

/-! ## The pattern of a cut clause -/

/-- A clause cut at a keyword, with the keyword as it is spelled. -/
structure Split where
  left : List Char
  keyword : List Char
  right : List Char
  deriving DecidableEq, Repr

/-- The two sides; the longer of the two keywords is the negated one. -/
def Split.membership (s : Split) : Membership := ⟨s.left, 2 < s.keyword.length, s.right⟩

/-- The letter in either case. -/
def letter (l : Char) : Pattern := .one fun c => c.toLower == l

/-- Any text that ends in a delimiter. -/
def leftPattern : Pattern := .seq (.fewest fun _ => true) (.one endsLeft)

def inPattern : Pattern := .seq (letter 'i') (letter 'n')

def notInPattern : Pattern :=
  .seq (letter 'n') (.seq (letter 'o') (.seq (letter 't')
    (.seq (.one isBlank) (.seq (.most isBlank) inPattern))))

def keywordPattern : Pattern := .either notInPattern inPattern

/-- Any text that starts with a delimiter. -/
def rightPattern : Pattern := .seq (.one startsRight) (.most fun _ => true)

/-- The splits with the given left side, when `s` is the text behind it. -/
def splitsAt (left s : List Char) : List Split :=
  (keywordPattern.cuts s).flatMap fun cut =>
    ((rightPattern.cuts cut.2).filter fun last => last.2.isEmpty).map fun last =>
      ⟨left, cut.1, last.1⟩

/-- The ways in which a clause matches `^(.*?[\s)?])(NOT\s+IN|IN)([\s(?].*)$`, where letters match in
either case and a line end like any character, in the order in which they are tried. -/
def splits (clause : List Char) : List Split :=
  (leftPattern.cuts clause).flatMap fun cut => splitsAt cut.1 cut.2

/-- The split that counts. -/
def split? (clause : List Char) : Option Split := (splits clause).head?

/-! ## Delimited keywords -/

/-- A clause is cut at a keyword that is delimited on both sides. -/
structure Delimited (clause : List Char) (s : Split) : Prop where
  whole : s.left ++ (s.keyword ++ s.right) = clause
  spelled : ∃ negated, IsKeyword negated s.keyword
  before : ∃ c, s.left.getLast? = some c ∧ (isBlank c = true ∨ c = ')' ∨ c = '?')
  behind : ∃ c, s.right.head? = some c ∧ (isBlank c = true ∨ c = '(' ∨ c = '?')

theorem endsLeft_iff (c : Char) :
    endsLeft c = true ↔ isBlank c = true ∨ c = ')' ∨ c = '?' := by
  simp [endsLeft, or_assoc]

theorem startsRight_iff (c : Char) :
    startsRight c = true ↔ isBlank c = true ∨ c = '(' ∨ c = '?' := by
  simp [startsRight, or_assoc]

theorem spells_inPattern {keyword : List Char} :
    inPattern.Spells keyword ↔ IsKeyword false keyword := by
  constructor
  · rintro ⟨_, _, rfl, ⟨i, rfl, isI⟩, n, rfl, isN⟩
    exact .plain (eq_of_beq isI) (eq_of_beq isN)
  · rintro ⟨isI, isN⟩
    exact ⟨_, _, rfl, ⟨_, rfl, beq_of_eq isI⟩, _, rfl, beq_of_eq isN⟩

theorem spells_notInPattern {keyword : List Char} :
    notInPattern.Spells keyword ↔ IsKeyword true keyword := by
  constructor
  · rintro ⟨_, _, rfl, ⟨n, rfl, isN⟩, _, _, rfl, ⟨o, rfl, isO⟩, _, _, rfl, ⟨t, rfl, isT⟩, _, _, rfl,
      ⟨b, rfl, first⟩, blanks, word, rfl, others, plain⟩
    have blank : ∀ c ∈ b :: blanks, isBlank c = true := List.forall_mem_cons.mpr ⟨first, others⟩
    have spelled := IsKeyword.negated (eq_of_beq isN) (eq_of_beq isO) (eq_of_beq isT)
      (List.cons_ne_nil b blanks) blank (spells_inPattern.mp plain)
    exact spelled
  · intro spelled
    cases spelled with
    | @negated n o t blanks word isN isO isT apart blank plain =>
        obtain ⟨b, blanks, rfl⟩ := List.exists_cons_of_ne_nil apart
        obtain ⟨first, others⟩ := List.forall_mem_cons.mp blank
        exact ⟨[n], _, rfl, ⟨n, rfl, beq_of_eq isN⟩, [o], _, rfl, ⟨o, rfl, beq_of_eq isO⟩, [t], _,
          rfl, ⟨t, rfl, beq_of_eq isT⟩, [b], _, rfl, ⟨b, rfl, first⟩, blanks, word, rfl, others,
          spells_inPattern.mpr plain⟩

theorem spells_keywordPattern {keyword : List Char} :
    keywordPattern.Spells keyword ↔ ∃ negated, IsKeyword negated keyword := by
  rw [Bool.exists_bool, ← spells_notInPattern, ← spells_inPattern, or_comm]
  rfl

theorem spells_leftPattern {left : List Char} :
    leftPattern.Spells left ↔ ∃ c, left.getLast? = some c ∧ endsLeft c = true := by
  constructor
  · rintro ⟨a, _, rfl, -, c, rfl, ends⟩
    exact ⟨c, by simp, ends⟩
  · rintro ⟨c, last, ends⟩
    obtain ⟨a, rfl⟩ := List.getLast?_eq_some_iff.mp last
    exact ⟨a, [c], rfl, fun _ _ => rfl, c, rfl, ends⟩

theorem spells_rightPattern {right : List Char} :
    rightPattern.Spells right ↔ ∃ c, right.head? = some c ∧ startsRight c = true := by
  constructor
  · rintro ⟨_, rest, rfl, ⟨c, rfl, starts⟩, -⟩
    exact ⟨c, rfl, starts⟩
  · rintro ⟨c, head, starts⟩
    obtain ⟨rest, rfl⟩ := List.head?_eq_some_iff.mp head
    exact ⟨[c], rest, rfl, ⟨c, rfl, starts⟩, fun _ _ => rfl⟩

theorem mem_splitsAt {left s : List Char} {x : Split} :
    x ∈ splitsAt left s ↔ x.left = left ∧ s = x.keyword ++ x.right ∧
      (∃ negated, IsKeyword negated x.keyword) ∧
        ∃ c, x.right.head? = some c ∧ startsRight c = true := by
  simp only [splitsAt, List.mem_flatMap, List.mem_map, List.mem_filter]
  constructor
  · rintro ⟨⟨keyword, rest⟩, atKeyword, ⟨right, behind⟩, ⟨atRight, nothing⟩, rfl⟩
    obtain ⟨rfl, spelled⟩ := Pattern.mem_cuts.mp atKeyword
    obtain ⟨rfl, starts⟩ := Pattern.mem_cuts.mp atRight
    obtain rfl := List.isEmpty_iff.mp nothing
    exact ⟨rfl, by simp, spells_keywordPattern.mp spelled, spells_rightPattern.mp starts⟩
  · rintro ⟨rfl, rfl, spelled, starts⟩
    exact ⟨(x.keyword, x.right), Pattern.mem_cuts.mpr ⟨rfl, spells_keywordPattern.mpr spelled⟩,
      (x.right, []), ⟨Pattern.mem_cuts.mpr ⟨by simp, spells_rightPattern.mpr starts⟩, rfl⟩, rfl⟩

theorem mem_splits {clause : List Char} {x : Split} : x ∈ splits clause ↔ Delimited clause x := by
  simp only [splits, List.mem_flatMap]
  constructor
  · rintro ⟨⟨left, rest⟩, atLeft, member⟩
    obtain ⟨rfl, ends⟩ := Pattern.mem_cuts.mp atLeft
    obtain ⟨rfl, rfl, spelled, c, head, starts⟩ := mem_splitsAt.mp member
    obtain ⟨d, last, ends⟩ := spells_leftPattern.mp ends
    exact ⟨rfl, spelled, ⟨d, last, (endsLeft_iff d).mp ends⟩, c, head,
      (startsRight_iff c).mp starts⟩
  · rintro ⟨rfl, spelled, ⟨d, last, ends⟩, c, head, starts⟩
    refine ⟨(x.left, x.keyword ++ x.right), Pattern.mem_cuts.mpr ⟨rfl, ?_⟩, mem_splitsAt.mpr
      ⟨rfl, rfl, spelled, c, head, (startsRight_iff c).mpr starts⟩⟩
    exact spells_leftPattern.mpr ⟨d, last, (endsLeft_iff d).mpr ends⟩

/-! ## The first keyword -/

theorem IsKeyword.longer_iff {negated : Bool} {keyword : List Char}
    (spelled : IsKeyword negated keyword) : decide (2 < keyword.length) = negated := by
  cases spelled with
  | plain isI isN => rfl
  | negated => simp

/-- A split is one that the search for a keyword finds. -/
theorem keyword?_of_mem {left s : List Char} {x : Split} (member : x ∈ splitsAt left s) :
    x.left = left ∧ keyword? s = some (x.membership.negated, x.right) := by
  obtain ⟨rfl, rfl, ⟨negated, spelled⟩, c, head, starts⟩ := mem_splitsAt.mp member
  obtain ⟨rest, right⟩ := List.head?_eq_some_iff.mp head
  refine ⟨rfl, ?_⟩
  rw [right, spelled.keyword?_append starts, ← spelled.longer_iff]
  rfl

/-- At one place there is one split at most, and the search for a keyword finds it. -/
theorem head?_splitsAt (left s : List Char) :
    (splitsAt left s).head?.map Split.membership =
      (keyword? s).map fun found => ⟨left, found.1, found.2⟩ := by
  cases listed : splitsAt left s with
  | nil =>
      have unkeyed : keyword? s = none := by
        by_contra keyed
        obtain ⟨⟨negated, right⟩, found⟩ := Option.ne_none_iff_exists'.mp keyed
        obtain ⟨keyword, spelled, rfl⟩ := keyword?_eq_some found
        obtain ⟨c, rest, rfl, starts⟩ := startsRight_of_keyword? found
        have member : ⟨left, keyword, c :: rest⟩ ∈ splitsAt left (keyword ++ c :: rest) :=
          mem_splitsAt.mpr ⟨rfl, rfl, ⟨negated, spelled⟩, c, rfl, starts⟩
        rw [listed] at member
        cases member
      rw [unkeyed]
      rfl
  | cons x others =>
      have member : x ∈ splitsAt left s := listed ▸ List.mem_cons_self
      obtain ⟨rfl, found⟩ := keyword?_of_mem member
      rw [found]
      rfl

/-- The left sides end in ever later delimiters. -/
theorem cuts_leftPattern_cons (c : Char) (s : List Char) :
    leftPattern.cuts (c :: s) =
      (if endsLeft c then [([c], s)] else []) ++
        (leftPattern.cuts s).map fun cut => (c :: cut.1, cut.2) := by
  simp only [leftPattern, Pattern.cuts, Pattern.runs, if_true, List.flatMap_cons, List.flatMap_map,
    List.map_flatMap, List.map_map]
  split <;> simp [Function.comp_def]

/-- The search for the first keyword goes through the splits in their order. -/
theorem findSome?_leftPattern (before : List Char) (c : Char) (s : List Char) :
    ((leftPattern.cuts (c :: s)).findSome? fun cut =>
        (splitsAt (before.reverse ++ cut.1) cut.2).head?.map Split.membership) =
      cut? (c :: before) s := by
  induction s generalizing before c with
  | nil =>
      rw [cuts_leftPattern_cons]
      split <;>
        simp [head?_splitsAt, leftPattern, Pattern.cuts, Pattern.runs, keyword?, afterIn?, cut?]
  | cons d s ih =>
      have later := ih (c :: before) d
      simp only [List.reverse_cons, List.append_assoc, List.singleton_append] at later
      rw [cuts_leftPattern_cons, List.findSome?_append, List.findSome?_map]
      simp only [Function.comp_def, later]
      by_cases ends : endsLeft c = true
      · cases found : keyword? (d :: s) with
        | none => simp [ends, head?_splitsAt, found, cut?]
        | some cut => simp [ends, head?_splitsAt, found, cut?]
      · have passed : cut? (c :: before) (d :: s) = cut? (d :: c :: before) s := by
          refine cut?_step fun p head delimiter => ?_
          obtain rfl : c = p := by simpa using head
          exact absurd delimiter ends
        simp [ends, passed]

/-- The split that counts is the cut of the clause. -/
theorem map_split? (clause : List Char) :
    (split? clause).map Split.membership = ofClause? clause := by
  cases clause with
  | nil => rfl
  | cons c s =>
      have first : ofClause? (c :: s) = cut? [c] s := cut?_step (by simp)
      rw [first, ← findSome?_leftPattern [] c s, split?, splits, List.head?_flatMap,
        List.map_findSome?]
      rfl

theorem IsKeyword.length_pos {negated : Bool} {keyword : List Char}
    (spelled : IsKeyword negated keyword) : 0 < keyword.length := by
  obtain ⟨c, rest, rfl, -⟩ := spelled.exists_cons
  exact Nat.succ_pos _

theorem Delimited.mem_splitsAt {clause : List Char} {x : Split} (delimited : Delimited clause x) :
    x ∈ splitsAt x.left (x.keyword ++ x.right) := by
  obtain ⟨c, head, starts⟩ := delimited.behind
  exact Membership.mem_splitsAt.mpr
    ⟨rfl, rfl, delimited.spelled, c, head, (startsRight_iff c).mpr starts⟩

/-- At one place there is one delimited keyword at most. -/
theorem Delimited.ext {clause : List Char} {a b : Split} (first : Delimited clause a)
    (second : Delimited clause b) (same : a.left.length = b.left.length) : a = b := by
  obtain ⟨sameLeft, behind⟩ := List.append_inj (first.whole.trans second.whole.symm) same
  obtain ⟨-, foundFirst⟩ := keyword?_of_mem first.mem_splitsAt
  obtain ⟨-, foundSecond⟩ := keyword?_of_mem second.mem_splitsAt
  rw [behind, foundSecond] at foundFirst
  have sameRight : b.right = a.right := congrArg Prod.snd (Option.some.inj foundFirst)
  have sameKeyword : a.keyword = b.keyword := by
    rw [sameRight] at behind
    exact List.append_cancel_right behind
  cases a
  cases b
  simp_all

/-- The search for a cut gets no further than a delimited keyword. -/
theorem cut?_reaches {before s : List Char} {x : Split}
    (delimited : Delimited (before.reverse ++ s) x) (further : before.length ≤ x.left.length) :
    ∃ m, cut? before s = some m ∧ m.left.length ≤ x.left.length := by
  induction s generalizing before with
  | nil =>
      obtain ⟨negated, spelled⟩ := delimited.spelled
      have pos := spelled.length_pos
      have total := congrArg List.length delimited.whole
      simp only [List.length_append, List.length_reverse, List.length_nil] at total
      omega
  | cons c rest ih =>
      by_cases unkeyed : ∀ p, before.head? = some p → endsLeft p = true →
          keyword? (c :: rest) = none
      · rw [cut?_step unkeyed]
        refine ih (by simpa using delimited) (Nat.lt_of_le_of_ne further fun same => ?_)
        -- the keyword would start here, behind its delimiter
        obtain ⟨sameLeft, here⟩ :=
          List.append_inj delimited.whole (same.symm.trans List.length_reverse.symm)
        obtain ⟨p, last, ends⟩ := delimited.before
        rw [sameLeft, List.getLast?_reverse] at last
        obtain ⟨-, found⟩ := keyword?_of_mem delimited.mem_splitsAt
        rw [here, unkeyed p last ((endsLeft_iff p).mpr ends)] at found
        cases found
      · obtain ⟨p, head, ends, keyed⟩ : ∃ p, before.head? = some p ∧ endsLeft p = true ∧
            keyword? (c :: rest) ≠ none := by simpa using unkeyed
        obtain ⟨⟨negated, right⟩, found⟩ := Option.ne_none_iff_exists'.mp keyed
        refine ⟨⟨before.reverse, negated, right⟩, by simp [cut?, head, found, ends], ?_⟩
        simpa using further

theorem delimited_of_split? {clause : List Char} {x : Split} (split : split? clause = some x) :
    Delimited clause x := mem_splits.mp (List.mem_of_head? split)

/-- Where there is a delimited keyword, a clause is split no later. -/
theorem exists_split? {clause : List Char} {x : Split} (delimited : Delimited clause x) :
    ∃ first, split? clause = some first ∧ first.left.length ≤ x.left.length := by
  obtain ⟨m, cut, least⟩ := @cut?_reaches [] clause x delimited (Nat.zero_le _)
  have cut' : ofClause? clause = some m := cut
  rw [← map_split?] at cut'
  obtain ⟨first, split, rfl⟩ := Option.map_eq_some_iff.mp cut'
  exact ⟨first, split, least⟩

/-- A clause is split at its first delimited keyword. -/
theorem split?_eq_some_iff {clause : List Char} {x : Split} :
    split? clause = some x ↔
      Delimited clause x ∧ ∀ y, Delimited clause y → x.left.length ≤ y.left.length := by
  constructor
  · intro split
    refine ⟨delimited_of_split? split, fun y delimited => ?_⟩
    obtain ⟨first, split', least⟩ := exists_split? delimited
    rw [split] at split'
    obtain rfl := Option.some.inj split'
    exact least
  · rintro ⟨delimited, least⟩
    obtain ⟨first, split, before⟩ := exists_split? delimited
    have same := Nat.le_antisymm before (least first (delimited_of_split? split))
    rw [split, (delimited_of_split? split).ext delimited same]

/-! ## Keywords behind the first -/

/-- Delimiters have no case. -/
theorem toLower_of_endsLeft {c : Char} (ends : endsLeft c = true) : c.toLower = c := by
  rcases (endsLeft_iff c).mp ends with blank | rfl | rfl
  · exact toLower_of_isBlank blank
  · rfl
  · rfl

theorem endsLeft_of_toLower {c l : Char} (lower : c.toLower = l) (letter : endsLeft l = false) :
    endsLeft c = false := by
  by_contra ends
  rw [Bool.not_eq_false] at ends
  rw [← lower, toLower_of_endsLeft ends, ends] at letter
  cases letter

/-- Inside a keyword no N stands right behind a delimiter. -/
theorem IsKeyword.isChain {negated : Bool} {keyword : List Char}
    (spelled : IsKeyword negated keyword) :
    keyword.IsChain fun d e => endsLeft d = true → e.toLower ≠ 'n' := by
  have letter {c l : Char} (lower : c.toLower = l) (inside : endsLeft l = false) (e : Char)
      (ends : endsLeft c = true) : e.toLower ≠ 'n' := by
    rw [endsLeft_of_toLower lower inside] at ends
    cases ends
  induction spelled with
  | plain isI isN => exact List.isChain_cons_cons.mpr ⟨letter isI (by decide) _, .singleton _⟩
  | @negated n o t blanks keyword isN isO isT apart blank plain ih =>
      have notN {e : Char} (blank : isBlank e = true) : e.toLower ≠ 'n' := by
        rw [toLower_of_isBlank blank]
        rintro rfl
        revert blank
        decide
      have within : blanks.IsChain fun d e => endsLeft d = true → e.toLower ≠ 'n' := by
        refine List.Pairwise.isChain (List.pairwise_of_forall_mem_list ?_)
        intro d _ e member _
        exact notN (blank e member)
      have seam : ∀ d ∈ blanks.getLast?, ∀ e ∈ keyword.head?,
          endsLeft d = true → e.toLower ≠ 'n' := by
        intro d _ e head _
        cases plain with
        | plain isI isN =>
            obtain rfl := Option.some.inj head
            rw [isI]
            decide
      refine List.isChain_cons_cons.mpr ⟨letter isN (by decide) _,
        List.isChain_cons_cons.mpr ⟨letter isO (by decide) _,
          List.isChain_cons.mpr ⟨fun e _ => letter isT (by decide) e, ?_⟩⟩⟩
      exact List.isChain_append.mpr ⟨within, ih, seam⟩

theorem IsKeyword.exists_cons_n {keyword : List Char} (negated : IsKeyword true keyword) :
    ∃ n letters, keyword = n :: letters ∧ n.toLower = 'n' := by
  cases negated with
  | negated isN => exact ⟨_, _, rfl, isN⟩

/-- A negated keyword behind the first stands whole on the right of it. -/
theorem Delimited.kept {clause : List Char} {a b : Split} (first : Delimited clause a)
    (second : Delimited clause b) (negated : IsKeyword true b.keyword)
    (earlier : a.left.length < b.left.length) :
    ∃ between, a.right = between ++ (b.keyword ++ b.right) := by
  have split : a.left ++ (a.keyword ++ a.right) = b.left ++ (b.keyword ++ b.right) :=
    first.whole.trans second.whole.symm
  obtain ⟨gap, sameLeft, split⟩ : ∃ gap, b.left = a.left ++ gap ∧
      a.keyword ++ a.right = gap ++ (b.keyword ++ b.right) := by
    rcases List.append_eq_append_iff.mp split with ⟨gap, longer, rest⟩ | ⟨gap, shorter, -⟩
    · exact ⟨gap, longer, rest⟩
    · rw [shorter, List.length_append] at earlier
      omega
  obtain ⟨d, last, ends⟩ := second.before
  have some : gap ≠ [] := by
    rintro rfl
    rw [sameLeft, List.append_nil] at earlier
    exact Nat.lt_irrefl _ earlier
  obtain ⟨start, rfl⟩ : ∃ start, gap = start ++ [d] := by
    rw [sameLeft, List.getLast?_append_of_ne_nil _ some] at last
    exact List.getLast?_eq_some_iff.mp last
  rcases List.append_eq_append_iff.mp split with ⟨between, longer, rest⟩ | ⟨tail, shorter, rest⟩
  · exact ⟨between, rest⟩
  · cases tail with
    | nil => exact ⟨[], rest.symm⟩
    | cons e tail =>
        -- the second keyword would start inside the first
        obtain ⟨negated', spelled⟩ := first.spelled
        have chain := spelled.isChain
        rw [shorter, List.append_assoc, List.singleton_append] at chain
        have notN := (List.isChain_append_cons_cons.mp chain).2.1 ((endsLeft_iff d).mpr ends)
        obtain ⟨n, letters, starts, isN⟩ := negated.exists_cons_n
        rw [starts] at rest
        obtain ⟨rfl, -⟩ := List.cons.inj rest
        exact absurd isN notN

end Membership

namespace Marker

/-! ## Lists further on -/

theorem placeList_eq_map_shift (first count group : Nat) :
    placeList first count group = (placeList 0 count group).map (shift first) := by
  rw [placeList, placeList, List.map_flatMap]
  congr 1
  funext i
  have comma : (if i = 0 then [] else [Symbol.char ',']).map (shift first) =
      if i = 0 then [] else [.char ','] := by
    split <;> rfl
  have opening : (if 1 < group ∧ i % group = 0 then [Symbol.char '('] else []).map (shift first) =
      if 1 < group ∧ i % group = 0 then [.char '('] else [] := by
    split <;> rfl
  have closing :
      (if 1 < group ∧ (i + 1) % group = 0 then [Symbol.char ')'] else []).map (shift first) =
        if 1 < group ∧ (i + 1) % group = 0 then [.char ')'] else [] := by
    split <;> rfl
  rw [List.map_append, List.map_append, List.map_append, comma, opening, closing, Nat.zero_add]
  rfl

/-- The list of a clause is numbered on from the arguments before it. -/
theorem expandFrom_eq_map_shift (first group total : Nat) (clause : List Char) :
    expandFrom first group total clause = (expandFrom 0 group total clause).map (shift first) := by
  have text (s : List Char) : (ofText s).map (shift first) = ofText s := by
    rw [ofText, List.map_map]
    rfl
  fun_induction hasMarker clause with
  | case1 => rfl
  | case2 rest ih =>
      rw [expandFrom, expandFrom, ih]
      rfl
  | case3 rest =>
      rw [expandFrom, expandFrom, placeList_eq_map_shift, List.map_append, List.map_cons,
        List.map_cons, text]
      rfl
  | case4 c rest noEscape notMarker ih =>
      have seamless : Seamless [c] rest := seamless_of_noEscape noEscape
      rw [expandFrom_char notMarker seamless, expandFrom_char notMarker seamless, ih]
      rfl

/-- Behind the first marker a clause is taken as it is. -/
theorem expandFrom_append {a b : List Char} (seamless : Seamless a b) (first group total : Nat) :
    expandFrom first group total (a ++ b) =
      expandFrom first group total a ++
        if hasMarker a then ofText b else expandFrom first group total b := by
  fun_induction hasMarker a with
  | case1 => rfl
  | case2 rest ih =>
      have later := ih seamless.tail.tail
      simp only [List.cons_append, expandFrom]
      rw [later]
  | case3 rest => simp [expandFrom, ofText]
  | case4 c rest noEscape notMarker ih =>
      have inside : Seamless [c] rest := seamless_of_noEscape noEscape
      rw [List.cons_append, expandFrom_char notMarker (inside.append seamless),
        expandFrom_char notMarker inside, ih seamless.tail, List.cons_append]

end Marker

namespace Membership

/-! ## Written clauses -/

/-- The side left of the keyword as it is written. -/
def Split.leftText (s : Split) (numbered : Bool) (start : Nat) : List Char :=
  render numbered start (Marker.read (trim s.left))

/-- A text right of the keyword as it is written: its first marker stands for those of `total`
arguments that the left side does not take. -/
def Split.rightText (s : Split) (numbered : Bool) (start total : Nat) (text : List Char) :
    List Char :=
  let taken := Marker.count (trim s.left)
  render numbered (start + taken)
    (Marker.expandFrom 0 (groupSize (trim s.left)) (total - taken) text)

theorem render_clauseSymbols {clause : List Char} {s : Split} (split : split? clause = some s)
    {negated : Bool} (spelled : IsKeyword negated s.keyword) (numbered : Bool) (start total : Nat) :
    render numbered start (clauseSymbols clause total) =
      s.leftText numbered start ++
        (keywordText negated ++ s.rightText numbered start total (trim s.right)) := by
  have cut : ofClause? clause = some s.membership := by
    rw [← map_split?, split]
    rfl
  have sign : s.membership.negated = negated := spelled.longer_iff
  rw [clauseSymbols, cut]
  show render numbered start (s.membership.symbols total) = _
  rw [symbols, render_append, render_append, render_ofText, sign, Marker.expandFrom_eq_map_shift,
    render_map_shift, List.append_assoc]
  rfl

theorem IsKeyword.exists_concat {negated : Bool} {keyword : List Char}
    (spelled : IsKeyword negated keyword) :
    ∃ letters c, keyword = letters ++ [c] ∧ isBlank c = false := by
  induction spelled with
  | @plain i n isI isN =>
      have inside := endsLeft_of_toLower isN (by decide)
      rw [endsLeft, Bool.or_eq_false_iff, Bool.or_eq_false_iff] at inside
      exact ⟨[i], n, rfl, inside.1.1⟩
  | @negated n o t blanks keyword isN isO isT apart blank plain ih =>
      obtain ⟨letters, c, rfl, notBlank⟩ := ih
      exact ⟨n :: o :: t :: (blanks ++ letters), c, by simp, notBlank⟩

theorem IsKeyword.expandFrom_append {negated : Bool} {keyword : List Char}
    (spelled : IsKeyword negated keyword) (first group total : Nat) (rest : List Char) :
    Marker.expandFrom first group total (keyword ++ rest) =
      ofText keyword ++ Marker.expandFrom first group total rest := by
  have noMark : '?' ∉ keyword := spelled.not_mem (by decide) (by decide)
  have noBackslash : '\\' ∉ keyword := spelled.not_mem (by decide) (by decide)
  have unmarked : Marker.hasMarker keyword = false := by
    rw [Bool.eq_false_iff, ne_eq, Marker.hasMarker_iff, Marker.count_eq_zero noMark]
    exact Nat.lt_irrefl 0
  have seamless : Marker.Seamless keyword rest := fun last =>
    absurd (List.mem_of_getLast? last) noBackslash
  have kept : Marker.expandFrom first group total keyword = ofText keyword := by
    rw [Marker.expandFrom_of_unmarked unmarked first group total 0]
    exact Marker.read_eq_ofText noMark
  rw [Marker.expandFrom_append seamless, unmarked, kept]
  rfl

/-- A keyword is not touched by trimming. -/
theorem IsKeyword.trim_append {negated : Bool} {keyword : List Char}
    (spelled : IsKeyword negated keyword) (before after : List Char) :
    trim (before ++ (keyword ++ after)) = trimStart before ++ (keyword ++ trimEnd after) := by
  obtain ⟨c, letters, starts, notBlank⟩ := spelled.exists_cons
  obtain ⟨init, d, ends, solid⟩ := spelled.exists_concat
  have start : trimStart (before ++ (keyword ++ after)) =
      trimStart before ++ (keyword ++ after) := by
    rw [starts]
    exact trimStart_append_cons before notBlank (letters ++ after)
  have last := trimEnd_concat_append (trimStart before ++ init) solid after
  rw [trim, start, ends]
  simpa using last

/-- Behind the first keyword, a keyword is written as it is spelled: what stands before it is written
as if it stood alone, and what stands behind it too unless the list has been written by then. -/
theorem Split.rightText_keyword (s : Split) {negated : Bool} {keyword : List Char}
    (spelled : IsKeyword negated keyword) (before after : List Char) (numbered : Bool)
    (start total : Nat) :
    s.rightText numbered start total (trim (before ++ (keyword ++ after))) =
      s.rightText numbered start total (trimStart before) ++
        (keyword ++
          if Marker.hasMarker before then trimEnd after
          else s.rightText numbered start total (trimEnd after)) := by
  have seamless : Marker.Seamless (trimStart before) (keyword ++ trimEnd after) := by
    obtain ⟨c, letters, starts, -⟩ := spelled.exists_cons
    have noMark : '?' ∉ keyword := spelled.not_mem (by decide) (by decide)
    intro _ head
    rw [starts] at head noMark
    obtain rfl : c = '?' := by simpa using head
    exact noMark List.mem_cons_self
  have marked : Marker.hasMarker (trimStart before) = Marker.hasMarker before := by
    rw [Bool.eq_iff_iff, Marker.hasMarker_iff, Marker.hasMarker_iff, Marker.count_trimStart]
  simp only [rightText]
  rw [spelled.trim_append, Marker.expandFrom_append seamless, spelled.expandFrom_append, marked,
    render_append]
  split
  · rw [render_ofText]
  · rw [render_append, render_ofText]

end Membership

/-! ## Rendered tests -/

namespace Predicate

open QueryBind.Membership

/-- **A clause is cut at its first delimited keyword.** The pattern splits a clause just when there is a
keyword with a delimiter on either side of it, and then at the first one. The cut clause is written as
its trimmed left side, the keyword in capitals between single blanks, and its trimmed right side with
the list. A negated keyword with delimiters is the one of the cut, or stands right of it and is
written as it is spelled. -/
theorem cut_at_first_keyword (clause : String) :
    (split? clause.toList).map Split.membership = ofClause? clause.toList ∧
      ((∃ s, split? clause.toList = some s) ↔ ∃ s, Delimited clause.toList s) ∧
      ∀ s : Split,
        (split? clause.toList = some s ↔
          Delimited clause.toList s ∧
            ∀ other, Delimited clause.toList other → s.left.length ≤ other.left.length) ∧
        (split? clause.toList = some s → ∀ negated, IsKeyword negated s.keyword →
          ∀ (test : Test) (args : List Value), test ≠ .plain → args ≠ [] →
            ∀ (numbered wrapped : Bool) (start : Nat),
              render numbered start (leafFragment wrapped test clause args).symbols =
                wrap wrapped (s.leftText numbered start ++
                  (keywordText negated ++
                    s.rightText numbered start args.length (trim s.right)))) ∧
        (split? clause.toList = some s → ∀ other, Delimited clause.toList other →
          IsKeyword true other.keyword →
            s = other ∨
              ∃ between, s.right = between ++ (other.keyword ++ other.right) ∧
                ∀ (numbered : Bool) (start total : Nat),
                  s.rightText numbered start total (trim s.right) =
                    s.rightText numbered start total (trimStart between) ++
                      (other.keyword ++
                        if Marker.hasMarker between then trimEnd other.right
                        else s.rightText numbered start total (trimEnd other.right))) := by
  refine ⟨map_split? _, ⟨fun ⟨s, split⟩ => ⟨s, delimited_of_split? split⟩,
    fun ⟨s, delimited⟩ => ?_⟩, fun s => ⟨split?_eq_some_iff, ?_, ?_⟩⟩
  · obtain ⟨first, split, -⟩ := exists_split? delimited
    exact ⟨first, split⟩
  · intro split negated spelled test args member given numbered wrapped start
    rw [render_leafFragment_member member given, render_clauseSymbols split spelled]
    rfl
  · intro split other delimited negated
    obtain ⟨cut, least⟩ := split?_eq_some_iff.mp split
    rcases Nat.eq_or_lt_of_le (least other delimited) with same | earlier
    · exact .inl (cut.ext delimited same)
    · obtain ⟨between, behind⟩ := cut.kept delimited negated earlier
      refine .inr ⟨between, behind, fun numbered start total => ?_⟩
      rw [behind, s.rightText_keyword negated]

/-- A negated keyword over two lines, and another one behind its list. -/
theorem linedTest_cut :
    let clause := "(a) NOT\n\tIn\n(?) and b not  in ?"
    let s : Split :=
      ⟨"(a) ".toList, "NOT\n\tIn".toList, "\n(?) and b not  in ?".toList⟩
    let other : Split :=
      ⟨"(a) NOT\n\tIn\n(?) and b ".toList, "not  in".toList, " ?".toList⟩
    (split? clause.toList = some s ∧ IsKeyword true s.keyword) ∧
      (Delimited clause.toList other ∧ IsKeyword true other.keyword) ∧
      s.left.length ≤ other.left.length ∧
      render true 3 (leafFragment true .notAmong clause [.int 1, .int 2]).symbols =
        "((a) NOT IN (($3,$4)) and b not  in ?)".toList ∧
      ∃ between, s.right = between ++ (other.keyword ++ other.right) := by
  intro clause s other
  have split : split? clause.toList = some s := by decide
  have keyword : IsKeyword true s.keyword :=
    @IsKeyword.negated 'N' 'O' 'T' ['\n', '\t'] ['I', 'n'] (by decide) (by decide) (by decide)
      (by decide) (List.all_eq_true.mp rfl) (.plain (by decide) (by decide))
  have second : IsKeyword true other.keyword :=
    @IsKeyword.negated 'n' 'o' 't' [' ', ' '] ['i', 'n'] (by decide) (by decide) (by decide)
      (by decide) (List.all_eq_true.mp rfl) (.plain (by decide) (by decide))
  have delimited : Delimited clause.toList other :=
    ⟨by decide, ⟨true, second⟩, ⟨' ', by decide, .inl (by decide)⟩, ' ', by decide,
      .inl (by decide)⟩
  have member : Test.notAmong ≠ .plain := by decide
  have given : [Value.int 1, .int 2] ≠ [] := List.cons_ne_nil _ _
  obtain ⟨-, -, cuts⟩ := cut_at_first_keyword clause
  obtain ⟨first, written, kept⟩ := cuts s
  have text := written split true keyword .notAmong _ member given true true 3
  refine ⟨⟨split, keyword⟩, ⟨delimited, second⟩, (first.mp split).2 other delimited,
    text.trans (by decide), ?_⟩
  rcases kept split other delimited second with same | ⟨between, behind, -⟩
  · exact absurd (congrArg Split.left same) (by decide)
  · exact ⟨between, behind⟩

end Predicate

end QueryBind
