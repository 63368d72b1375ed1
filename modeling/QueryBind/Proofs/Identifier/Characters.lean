/-
# QueryBind.Proofs.Identifier.Characters — where the characters of quoted texts come from

Cutting a text gives pieces of it (`List.subset_of_mem_splitOnP`), and quoting puts back together
such pieces with quotes, dots and stars. So a character that is none of these and does not stand in a
text stands neither in the quoted nor in the unquoted text, nor in an alias or a list of
columns made of such texts (`Quotes.not_mem_quote` and its neighbours).
-/
import QueryBind.Proofs.Identifier.Spelling

namespace QueryBind

set_option autoImplicit false

open Text Identifier

/-! ## Pieces -/

namespace Text

theorem subset_of_mem_words {s word : List Char} (member : word ∈ words s) : word ⊆ s :=
  List.subset_of_mem_splitOnP (List.mem_filter.mp member).1

theorem trim_subset (s : List Char) : trim s ⊆ s := by
  intro c member
  have reversed : c ∈ (trimStart s).reverse :=
    (List.dropWhile_sublist _).subset (List.mem_reverse.mp member)
  exact (List.dropWhile_sublist _).subset (List.mem_reverse.mp reversed)

theorem dropReturn_subset (line : List Char) : dropReturn line ⊆ line := by
  unfold dropReturn
  split
  · exact List.dropLast_subset line
  · exact List.Subset.refl line

theorem subset_of_mem_linesOfPieces {pieces : List (List Char)} {line : List Char}
    (member : line ∈ linesOfPieces pieces) : ∃ piece ∈ pieces, line ⊆ piece := by
  fun_induction linesOfPieces pieces with
  | case1 => cases member
  | case2 last empty => cases member
  | case3 last full =>
      obtain rfl := List.mem_singleton.mp member
      exact ⟨line, List.mem_singleton_self line, List.Subset.refl line⟩
  | case4 first rest _ ih =>
      rcases List.mem_cons.mp member with rfl | member
      · exact ⟨first, List.mem_cons_self, dropReturn_subset first⟩
      · obtain ⟨piece, listed, subset⟩ := ih member
        exact ⟨piece, List.mem_cons_of_mem first listed, subset⟩

theorem subset_of_mem_lines {s line : List Char} (member : line ∈ lines s) : line ⊆ s := by
  obtain ⟨piece, listed, subset⟩ := subset_of_mem_linesOfPieces member
  exact List.Subset.trans subset (List.subset_of_mem_splitOn listed)

end Text

/-! ## Quoting -/

namespace Quotes

variable {q : Quotes}

theorem inner?_subset {s inner : List Char} (enclosed : q.inner? s = some inner) : inner ⊆ s := by
  rw [eq_enclose_of_inner? enclosed]
  exact List.subset_cons_of_subset _ (List.subset_append_left _ _)

theorem strip_subset (q : Quotes) (s : List Char) : q.strip s ⊆ s := by
  unfold strip
  cases enclosed : q.inner? s with
  | none => exact List.Subset.refl s
  | some inner => exact inner?_subset enclosed

theorem Spells.subset {part name : List Char} (spells : q.Spells part name) : name ⊆ part := by
  rcases spells with rfl | rfl
  · exact List.Subset.refl _
  · exact inner?_subset (inner?_enclose q name)

/-- The name of a segment is taken from one of the parts. -/
theorem subset_of_mem_segmentsOf? {isFirst : Bool} {parts : List (List Char)}
    {segments : List Segment} (read : q.segmentsOf? isFirst parts = some segments)
    {name : List Char} (member : .name name ∈ segments) : ∃ part ∈ parts, name ⊆ part := by
  obtain ⟨spelled, names, starred, rfl, rfl, -, spells, -⟩ := spells_of_segmentsOf? read
  have listed : name ∈ names := by cases starred <;> simpa [segmentsOf] using member
  obtain ⟨part, among, here⟩ := List.exists_mem_of_forall₂ (List.Forall₂.flip spells) listed
  exact ⟨part, List.mem_append_left _ among, Spells.subset here⟩

section Absent

variable {x : Char} (opening : x ≠ q.opening) (closing : x ≠ q.closing)

include opening closing

theorem not_mem_enclose {name : List Char} (absent : x ∉ name) : x ∉ q.enclose name := by
  simp [enclose, opening, closing, absent]

theorem not_mem_quote (noDot : x ≠ '.') (noStar : x ≠ '*') {s : List Char} (absent : x ∉ s) :
    x ∉ q.quote s := by
  unfold quote
  split
  · exact absent
  · split
    · next segments read =>
        refine List.not_mem_intercalate (by simpa using noDot) ?_
        intro piece member
        obtain ⟨segment, listed, rfl⟩ := List.mem_map.mp member
        cases segment with
        | star => simpa [renderSegment] using noStar
        | name text =>
            obtain ⟨part, among, subset⟩ := subset_of_mem_segmentsOf? read listed
            refine not_mem_enclose opening closing fun inside => ?_
            exact absent (List.subset_of_mem_splitOn among (subset inside))
    · exact absent

end Absent

theorem not_mem_unquote {x : Char} (noDot : x ≠ '.') {s : List Char} (absent : x ∉ s) :
    x ∉ q.unquote s := by
  refine List.not_mem_intercalate (by simpa using noDot) ?_
  intro piece member
  obtain ⟨part, among, rfl⟩ := List.mem_map.mp member
  exact fun inside => absent (List.subset_of_mem_splitOn among (strip_subset q part inside))

end Quotes

/-- The qualifier of a table is taken from its entry. -/
theorem TableSource.not_mem_qualifier {q : Quotes} {x : Char} (noDot : x ≠ '.')
    {entry : List Char} (absent : x ∉ entry) {t : TableSource} (parsed : parse? q entry = some t) :
    x ∉ t.qualifier := by
  have word {w : List Char} (member : w ∈ words entry) : x ∉ q.unquote w :=
    Quotes.not_mem_unquote noDot fun inside => absent (subset_of_mem_words member inside)
  have aliasWord {rest : List (List Char)} {w : List Char} (found : aliasWord? rest = some w) :
      w ∈ rest := by
    cases rest with
    | nil => cases found
    | cons first others =>
        simp only [aliasWord?] at found
        split at found
        · exact List.mem_cons_of_mem first (List.mem_of_head? found)
        · split at found
          · cases found
          · cases found
            exact List.mem_cons_self
  unfold parse? at parsed
  split at parsed
  · cases parsed
  · next name rest cut =>
      have named : x ∉ q.unquote name := word (by rw [cut]; exact List.mem_cons_self)
      split at parsed
      · split at parsed
        · cases parsed
          exact named
        · next w found =>
            split at parsed
            · cases parsed
              exact word (by rw [cut]; exact List.mem_cons_of_mem name (aliasWord found))
            · cases parsed
      · cases parsed

end QueryBind
