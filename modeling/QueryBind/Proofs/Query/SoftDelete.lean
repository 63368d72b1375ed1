/-
# QueryBind.Proofs.Query.SoftDelete — which conditions on deletion are taken out

The filter that keeps deleted rows away is a test of the column `deleted_at`, alone or qualified by
a table, in any case and quoted at will (`Predicate.DeletionFilter`). What is taken out is told by
the end of a clause: behind the last dot the column, and behind that `is null`
(`Predicate.EndsAsFilter`). Nothing is asked of the text before that dot, so a longer condition that
ends in the test of a qualified column is taken out as a whole.

`Query.deletion_filters_by_ending` says that the conditions are filtered by that, with nothing else
of the query changed; that a second time takes nothing more out; and that of the clauses which test
one dotted name exactly the filters are taken out.
-/
import Mathlib.Data.List.DropRight
import Mathlib.Data.List.Induction
import QueryBind.Proofs.Identifier.Characters
import QueryBind.Proofs.Identifier.Spelling
import QueryBind.Query.Edit
import QueryBind.Query.Render

namespace QueryBind

set_option autoImplicit false

open Text Identifier

/-! ## The last part of a dotted text -/

namespace Identifier

/-- What stands behind the last dot. -/
def lastPart (s : List Char) : List Char := s.rtakeWhile (· != '.')

theorem lastPart_of_undotted {s : List Char} (undotted : '.' ∉ s) : lastPart s = s := by
  refine List.rtakeWhile_eq_self_iff.mpr ?_
  intro c member
  have apart : c ≠ '.' := by
    rintro rfl
    exact undotted member
  simpa using apart

theorem lastPart_append_dot (before s : List Char) :
    lastPart (before ++ '.' :: s) = lastPart s := by
  induction s using List.reverseRecOn with
  | nil => simp [lastPart]
  | append_singleton s c ih =>
      simp only [lastPart] at ih ⊢
      rw [← List.cons_append, ← List.append_assoc, List.rtakeWhile_concat, List.rtakeWhile_concat, ih]

/-- A text whose last part is a name is the name, or ends in a dot and the name. -/
theorem lastPart_eq_iff {name : List Char} (undotted : '.' ∉ name) (s : List Char) :
    lastPart s = name ↔ s = name ∨ '.' :: name <:+ s := by
  constructor
  · rintro rfl
    have cut : s.rdropWhile (· != '.') ++ lastPart s = s := List.rdropWhile_append_rtakeWhile
    by_cases whole : s.rdropWhile (· != '.') = []
    · rw [whole] at cut
      exact .inl cut.symm
    · have dot : (s.rdropWhile (· != '.')).getLast whole = '.' := by
        simpa using List.rdropWhile_last_not (· != '.') s whole
      have ends := List.dropLast_append_getLast whole
      rw [dot] at ends
      refine .inr ⟨(s.rdropWhile (· != '.')).dropLast, ?_⟩
      rw [← List.singleton_append, ← List.append_assoc, ends, cut]
  · rintro (rfl | ⟨before, rfl⟩)
    · exact lastPart_of_undotted undotted
    · rw [lastPart_append_dot, lastPart_of_undotted undotted]

theorem lastPart_intercalate (before : List (List Char)) {last : List Char}
    (undotted : '.' ∉ last) : lastPart (['.'].intercalate (before ++ [last])) = last := by
  induction before with
  | nil => simpa [List.intercalate] using lastPart_of_undotted undotted
  | cons first rest ih =>
      obtain ⟨second, others, same⟩ := List.exists_cons_of_ne_nil (List.append_ne_nil_of_right_ne_nil
        rest (List.cons_ne_nil last []))
      rw [List.cons_append, same, List.intercalate_cons_cons, ← same, List.append_assoc,
        List.singleton_append, lastPart_append_dot, ih]

/-- The last part is the last one that the dots cut off. -/
theorem exists_splitOn_eq (s : List Char) : ∃ before, s.splitOn '.' = before ++ [lastPart s] := by
  have cut := List.dropLast_append_getLast (List.splitOn_ne_nil '.' s)
  have undotted : '.' ∉ (s.splitOn '.').getLast (List.splitOn_ne_nil '.' s) :=
    List.not_mem_of_mem_splitOn (List.getLast_mem _)
  have last := lastPart_intercalate (s.splitOn '.').dropLast undotted
  rw [cut, List.intercalate_splitOn] at last
  exact ⟨(s.splitOn '.').dropLast, by rw [last, cut]⟩

end Identifier

/-! ## The last part of an identifier -/

namespace Quotes

variable {q : Quotes}

/-- Unquoting strips the last part for itself. -/
theorem lastPart_unquote (q : Quotes) (s : List Char) :
    lastPart (q.unquote s) = q.strip (lastPart s) := by
  obtain ⟨before, cut⟩ := exists_splitOn_eq s
  have undotted : '.' ∉ lastPart s := List.not_mem_of_mem_splitOn (by rw [cut]; simp)
  have stripped : '.' ∉ q.strip (lastPart s) := fun inside => undotted (strip_subset q _ inside)
  rw [unquote, cut, List.map_append, List.map_singleton, lastPart_intercalate _ stripped]

/-- Every part of an identifier is a star or spells a name. -/
theorem spelled_of_isIdentifier {s part : List Char} (identifier : q.isIdentifier s = true)
    (member : part ∈ s.splitOn '.') :
    part = ['*'] ∨ ∃ name, isBare name = true ∧ q.Spells part name := by
  obtain ⟨segments, read⟩ := Option.isSome_iff_exists.mp identifier
  obtain ⟨spelled, names, starred, cut, -, bare, spells, -⟩ := spells_of_segmentsOf? read
  rw [cut] at member
  rcases List.mem_append.mp member with inside | star
  · obtain ⟨name, listed, here⟩ := List.exists_mem_of_forall₂ spells inside
    exact .inr ⟨name, bare name listed, here⟩
  · cases starred <;> simp_all [wildcard]

theorem isBlank_of_continuesName {c : Char} (continues : continuesName c = true) :
    isBlank c = false := by
  have points : ∀ n ∈ blankPoints, continuesName (Char.ofNat n) = false := by decide
  by_contra blank
  rw [Bool.not_eq_false] at blank
  have outside := points c.toNat (List.contains_iff_mem.mp blank)
  rw [Char.ofNat_toNat, continues] at outside
  cases outside

/-- A part that spells a name ends in a character of the name or in a quote. -/
theorem getLast?_spelled {part name : List Char} (bare : isBare name = true)
    (spells : q.Spells part name) :
    ∃ c, part.getLast? = some c ∧ (continuesName c = true ∨ c = q.closing) := by
  rcases spells with rfl | rfl
  · cases part with
    | nil => cases bare
    | cons first rest =>
        have last := List.getLast?_eq_some_getLast (List.cons_ne_nil first rest)
        exact ⟨_, last, .inl (continuesName_of_isBare bare _ (List.getLast_mem _))⟩
  · exact ⟨q.closing, List.getLast?_concat, .inr rfl⟩

/-- An identifier ends in no blank, unless that is the closing quote. -/
theorem trimEnd_identifier (solid : isBlank q.closing = false) {s blanks : List Char}
    (identifier : q.isIdentifier s = true) (blank : ∀ c ∈ blanks, isBlank c = true) :
    trimEnd (s ++ blanks) = s := by
  obtain ⟨before, cut⟩ := exists_splitOn_eq s
  have among : lastPart s ∈ s.splitOn '.' := by rw [cut]; simp
  obtain ⟨c, last, notBlank⟩ : ∃ c, (lastPart s).getLast? = some c ∧ isBlank c = false := by
    rcases spelled_of_isIdentifier identifier among with star | ⟨name, bare, spells⟩
    · exact ⟨'*', by rw [star]; rfl, by decide⟩
    · obtain ⟨c, last, continues | rfl⟩ := getLast?_spelled bare spells
      · exact ⟨c, last, isBlank_of_continuesName continues⟩
      · exact ⟨_, last, solid⟩
  obtain ⟨front, same⟩ : lastPart s <:+ s := List.rtakeWhile_suffix _ _
  have reversed : ∀ c ∈ blanks.reverse, isBlank c = true := by simpa using blank
  obtain ⟨ends, final⟩ := List.getLast?_eq_some_iff.mp last
  rw [final, ← List.append_assoc] at same
  rw [trimEnd, List.reverse_append, List.dropWhile_append_of_pos reversed, ← same,
    List.reverse_concat, List.dropWhile_cons_of_neg (by simp [notBlank]), List.reverse_cons,
    List.reverse_reverse]

end Quotes

/-! ## Filters -/

namespace Predicate

/-- The clause in lower case, without the blanks around it. -/
def normalized (clause : String) : List Char := asciiLower (trim clause.toList)

/-- The clause is a test of `deleted_at`, alone or qualified by a table. -/
def DeletionFilter (q : Quotes) (clause : String) : Prop :=
  ∃ column, normalized clause = column ++ " is null".toList ∧ q.isIdentifier column = true ∧
    (q.unquote column = "deleted_at".toList ∨
      ∃ table, q.unquote column = table ++ ".deleted_at".toList)

/-- The clause ends in a test of `deleted_at`, whatever stands before the last dot. -/
def EndsAsFilter (q : Quotes) (clause : String) : Prop :=
  ∃ tested, normalized clause = tested ++ "is null".toList ∧
    q.strip (lastPart (trimEnd tested)) = "deleted_at".toList

/-- The predicate is taken out. -/
def Dropped (q : Quotes) : Predicate → Prop
  | .leaf .plain clause _ _ => EndsAsFilter q clause
  | _ => False

theorem unquote_deleted_iff (q : Quotes) (s : List Char) :
    (q.unquote s == "deleted_at".toList || ".deleted_at".toList.isSuffixOf (q.unquote s)) = true ↔
      q.strip (lastPart s) = "deleted_at".toList := by
  have undotted : '.' ∉ "deleted_at".toList := by decide
  have ending : ".deleted_at".toList = '.' :: "deleted_at".toList := by decide
  rw [← Quotes.lastPart_unquote, lastPart_eq_iff undotted, Bool.or_eq_true, beq_iff_eq,
    List.isSuffixOf_iff_suffix, ending]

theorem isSoftDelete_plain (q : Quotes) (clause : String) (args : List Value) (byOr : Bool) :
    (leaf .plain clause args byOr).isSoftDelete q = true ↔ EndsAsFilter q clause := by
  have text : asciiLower (trim clause.toList) = normalized clause := rfl
  simp only [isSoftDelete, text]
  split
  · next ends =>
      obtain ⟨tested, cut⟩ := List.isSuffixOf_iff_suffix.mp ends
      have before : (normalized clause).take
          ((normalized clause).length - "is null".toList.length) = tested := by
        rw [← cut, List.length_append, Nat.add_sub_cancel, List.take_left]
      rw [before, unquote_deleted_iff]
      constructor
      · intro column
        exact ⟨tested, cut.symm, column⟩
      · rintro ⟨other, same, column⟩
        obtain rfl : other = tested := List.append_cancel_right (same.symm.trans cut.symm)
        exact column
  · next other =>
      constructor
      · intro impossible
        cases impossible
      · rintro ⟨tested, cut, -⟩
        exact absurd (List.isSuffixOf_iff_suffix.mpr ⟨tested, cut.symm⟩) other

theorem isSoftDelete_iff (q : Quotes) (p : Predicate) : p.isSoftDelete q = true ↔ p.Dropped q := by
  cases p with
  | leaf test clause args byOr =>
      cases test with
      | plain => exact isSoftDelete_plain q clause args byOr
      | among => simp [isSoftDelete, Dropped]
      | notAmong => simp [isSoftDelete, Dropped]
  | groupStart byOr => simp [isSoftDelete, Dropped]
  | groupEnd => simp [isSoftDelete, Dropped]

instance (q : Quotes) (p : Predicate) : Decidable (p.Dropped q) :=
  decidable_of_iff _ (isSoftDelete_iff q p)

/-- A clause that tests one dotted name ends as the filter just when it is the filter. -/
theorem endsAsFilter_iff {q : Quotes} (solid : isBlank q.closing = false) {clause : String}
    {column : List Char} (text : normalized clause = column ++ " is null".toList)
    (identifier : q.isIdentifier column = true) : EndsAsFilter q clause ↔ DeletionFilter q clause := by
  have trimmed : trimEnd (column ++ [' ']) = column := by
    refine Quotes.trimEnd_identifier solid identifier ?_
    intro c member
    obtain rfl := List.mem_singleton.mp member
    decide
  have spaced : column ++ " is null".toList = (column ++ [' ']) ++ "is null".toList := by
    simp
  have named : q.strip (lastPart column) = "deleted_at".toList ↔
      q.unquote column = "deleted_at".toList ∨
        ∃ table, q.unquote column = table ++ ".deleted_at".toList := by
    rw [← unquote_deleted_iff, Bool.or_eq_true, beq_iff_eq, List.isSuffixOf_iff_suffix]
    refine or_congr_right ⟨?_, ?_⟩
    · rintro ⟨table, same⟩
      exact ⟨table, same.symm⟩
    · rintro ⟨table, same⟩
      exact ⟨table, same.symm⟩
  constructor
  · rintro ⟨tested, same, last⟩
    rw [text, spaced] at same
    obtain rfl := List.append_cancel_right same
    rw [trimmed] at last
    exact ⟨column, text, identifier, named.mp last⟩
  · rintro ⟨other, same, -, last⟩
    rw [text] at same
    obtain rfl := List.append_cancel_right same
    refine ⟨column ++ [' '], text.trans spaced, ?_⟩
    rw [trimmed]
    exact named.mpr last

end Predicate

open Predicate

theorem Query.apply_dropSoftDelete (q : Query) :
    q.apply .dropSoftDelete =
      { q with conditions := q.conditions.filter fun p => ¬ p.Dropped q.dialect.quotes } := by
  have same : (fun p : Predicate => !p.isSoftDelete q.dialect.quotes) =
      fun p => decide (¬ p.Dropped q.dialect.quotes) := by
    funext p
    simp [← isSoftDelete_iff]
  rw [← same]
  rfl

/-- **Conditions on deletion are taken out by how they end.** Taking them out filters the WHERE list
and touches nothing else of the query: what is left stays in order with its arguments and its mark,
and taking out again changes nothing. A clause that tests one dotted name is taken out just when it
is the filter on `deleted_at`; of any other clause only the end counts. -/
theorem Query.deletion_filters_by_ending (q : Query) :
    (q.apply .dropSoftDelete =
        { q with conditions := q.conditions.filter fun p => ¬ p.Dropped q.dialect.quotes }) ∧
      ((q.apply .dropSoftDelete).apply .dropSoftDelete = q.apply .dropSoftDelete) ∧
      (isBlank q.dialect.quotes.closing = false → ∀ (clause : String) (column : List Char),
        normalized clause = column ++ " is null".toList →
          q.dialect.quotes.isIdentifier column = true →
            (EndsAsFilter q.dialect.quotes clause ↔ DeletionFilter q.dialect.quotes clause)) := by
  refine ⟨q.apply_dropSoftDelete, ?_, fun solid clause column text identifier =>
    endsAsFilter_iff solid text identifier⟩
  rw [apply_dropSoftDelete (q.apply .dropSoftDelete), apply_dropSoftDelete q]
  simp

/-- A filter in brackets and capitals, a test of another column, and two that only look alike. -/
def Query.bracketedFilters : Query :=
  (Query.empty .mssql).applyAll
    [.appendFrom "videos", .appendLeaf .plain " [Videos].[Deleted_At] IS NULL" [],
      .appendLeaf .plain "archived_at is null" [], .orLast,
      .appendLeaf .among "deleted_at is null" [.int 1],
      .appendLeaf .plain "deleted_at is null or a = ?" [.int 2]]

theorem Query.bracketedFilters_left :
    isBlank bracketedFilters.dialect.quotes.closing = false ∧
      normalized " [Videos].[Deleted_At] IS NULL" =
        "[videos].[deleted_at]".toList ++ " is null".toList ∧
      bracketedFilters.dialect.quotes.isIdentifier "[videos].[deleted_at]".toList = true ∧
      EndsAsFilter bracketedFilters.dialect.quotes " [Videos].[Deleted_At] IS NULL" ∧
      (bracketedFilters.apply .dropSoftDelete).conditions =
        [.leaf .plain "archived_at is null" [] true, .leaf .among "deleted_at is null" [.int 1] false,
          .leaf .plain "deleted_at is null or a = ?" [.int 2] false] := by
  have solid : isBlank bracketedFilters.dialect.quotes.closing = false := by decide
  have text : normalized " [Videos].[Deleted_At] IS NULL" =
      "[videos].[deleted_at]".toList ++ " is null".toList := by decide
  have identifier : bracketedFilters.dialect.quotes.isIdentifier "[videos].[deleted_at]".toList =
      true := by decide
  have filter : DeletionFilter bracketedFilters.dialect.quotes " [Videos].[Deleted_At] IS NULL" :=
    ⟨_, text, identifier, .inr ⟨"videos".toList, by decide⟩⟩
  have reading := (deletion_filters_by_ending bracketedFilters).2.2 solid _ _ text identifier
  exact ⟨solid, text, identifier, reading.mpr filter, rfl⟩

/-- A condition on `a` that ends in the test of a qualified column. -/
def Query.widenedQuery : Query :=
  (Query.empty .postgres).applyAll
    [.appendFrom "videos", .appendLeaf .plain "a = ? AND videos.deleted_at is null" [.int 1]]

/-- The condition is no filter, and is taken out with its argument. -/
theorem Query.widenedQuery_unfiltered :
    ¬ DeletionFilter widenedQuery.dialect.quotes "a = ? AND videos.deleted_at is null" ∧
      widenedQuery.render.sql =
        "SELECT * FROM \"videos\" WHERE (a = $1 AND videos.deleted_at is null);" ∧
      (widenedQuery.apply .dropSoftDelete).conditions = [] ∧
      (widenedQuery.apply .dropSoftDelete).render.sql = "SELECT * FROM \"videos\";" := by
  refine ⟨?_, by decide, rfl, by decide⟩
  rintro ⟨column, text, identifier, -⟩
  have whole : normalized "a = ? AND videos.deleted_at is null" =
      "a = ? and videos.deleted_at".toList ++ " is null".toList := by decide
  obtain rfl := List.append_cancel_right (text.symm.trans whole)
  revert identifier
  decide

end QueryBind
