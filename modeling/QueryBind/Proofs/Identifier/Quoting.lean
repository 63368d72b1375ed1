/-
# QueryBind.Proofs.Identifier.Quoting — the laws of quoting and unquoting

A dotted identifier is a spelling of names, with a `*` behind them or not (`Quotes.Dotted`). Reading
a text into segments gives nothing else (`dotted_of_segments?`), and quoting writes the spelling in
which every name is quoted.

* A second quoting changes nothing, whatever the quote characters are. If a `.` is one of them, a
  quoted text has an empty part between its dots and is no identifier any more
  (`nil_mem_splitOn_enclosed`); otherwise it is cut into the quoted names and read as they stand.
* When the quote characters cannot be taken for part of a name, a text spells its names in one way
  only (`segments?_dotted`), so that quoting and unquoting are two normal forms of one thing, and
  `quoting_laws` says that they identify the same identifiers.
-/
import QueryBind.Proofs.Identifier.Characters
import QueryBind.Proofs.Identifier.Spelling
import QueryBind.Dialect

namespace QueryBind

set_option autoImplicit false

open Text Identifier

namespace Quotes

variable {q : Quotes} {names parts : List (List Char)} {starred : Bool} {s : List Char}

/-- The text spells names, one after the other, with a `*` behind them or not. -/
structure Dotted (q : Quotes) (s : List Char) (names : List (List Char)) (starred : Bool) :
    Prop where
  some : names ≠ []
  bare : ∀ name ∈ names, isBare name = true
  spelled : ∃ parts, q.SpellsAll parts names ∧ s = ['.'].intercalate (parts ++ wildcard starred)

theorem render_segmentsOf (q : Quotes) (names : List (List Char)) (starred : Bool) :
    q.render (segmentsOf names starred) =
      ['.'].intercalate (names.map q.enclose ++ wildcard starred) := by
  cases starred <;> simp [render, segmentsOf, wildcard, renderSegment, Function.comp_def]

/-! ## Reading -/

theorem dotted_of_segments? {segments : List Segment} (read : q.segments? s = some segments) :
    ∃ names starred, q.Dotted s names starred ∧ segments = segmentsOf names starred := by
  obtain ⟨spelled, names, starred, cut, rfl, bare, spells, first⟩ := spells_of_segmentsOf? read
  have some : names ≠ [] := by
    rintro rfl
    cases spells
    cases starred
    · exact List.splitOn_ne_nil '.' s cut
    · exact first rfl rfl rfl
  refine ⟨names, starred, ⟨some, bare, spelled, spells, ?_⟩, rfl⟩
  rw [← cut, List.intercalate_splitOn]

/-- Cutting at the dots gives back parts without dots, and the `*` behind them. -/
theorem splitOn_joined (some : parts ≠ []) (undotted : ∀ part ∈ parts, '.' ∉ part)
    (starred : Bool) :
    (['.'].intercalate (parts ++ wildcard starred)).splitOn '.' = parts ++ wildcard starred := by
  refine List.splitOn_intercalate '.' ?_ (List.append_ne_nil_of_left_ne_nil some _)
  intro part member
  rcases List.mem_append.mp member with member | star
  · exact undotted part member
  · cases starred <;> simp_all [wildcard]

/-- Readable parts, with a `*` behind them or not, are read as the names. -/
theorem segments?_readable (readable : List.Forall₂ q.Readable parts names) (some : names ≠ [])
    (undotted : ∀ part ∈ parts, '.' ∉ part) (starred : Bool) :
    q.segments? (['.'].intercalate (parts ++ wildcard starred)) =
      Option.some (segmentsOf names starred) := by
  cases readable with
  | nil => exact absurd rfl some
  | cons first rest =>
      rw [segments?, splitOn_joined (List.cons_ne_nil _ _) undotted starred,
        segmentsOf?_readable_append (.cons first rest)]
      cases starred <;> simp [segmentsOf?, wildcard, segmentsOf]

/-- The argument marker is no identifier. -/
theorem segments?_marker (q : Quotes) : q.segments? ['?'] = none := by
  have cut : ['?'].splitOn '.' = [['?']] := by decide
  have nameless : isBare ['?'] = false := by decide
  simp [segments?, cut, segmentsOf?, name?, inner?, nameless]

/-! ## Quoting twice -/

theorem nil_not_mem_spelledAll (bare : ∀ name ∈ names, isBare name = true)
    (spells : q.SpellsAll parts names) : [] ∉ parts := by
  induction spells with
  | nil => exact List.not_mem_nil
  | @cons part name _ _ first rest ih =>
      obtain ⟨here, later⟩ := List.forall_mem_cons.mp bare
      have some : [] ≠ part := by
        rintro rfl
        rcases first with rfl | quoted
        · cases here
        · cases quoted
      exact List.not_mem_cons_of_ne_of_not_mem some (ih later)

theorem readable_enclose {name : List Char} (bare : isBare name = true) :
    q.Readable (q.enclose name) name := by
  refine ⟨spelled_ne_star bare (.inr rfl), ?_⟩
  have named : (some name).filter isBare = some name := by simp [Option.filter, bare]
  rw [name?, inner?_enclose, named]

theorem readableAll_enclose (bare : ∀ name ∈ names, isBare name = true) :
    List.Forall₂ q.Readable (names.map q.enclose) names := by
  rw [List.forall₂_map_left_iff, List.forall₂_same]
  exact fun name member => readable_enclose (bare name member)

/-- With a `.` for a quote character there is an empty part beside the first name. -/
theorem nil_mem_splitOn_enclosed (dot : q.opening = '.' ∨ q.closing = '.') (name : List Char)
    (rest : List (List Char)) : [] ∈ (['.'].intercalate (q.enclose name :: rest)).splitOn '.' := by
  obtain ⟨after, joined, ends⟩ := List.intercalate_eq_append '.' (q.enclose name) rest
  rw [joined, enclose]
  rcases dot with opens | closes
  · rw [opens]
    have cut := List.splitOn_append_cons_self (a := '.') [] (name ++ [q.closing] ++ after)
    simp_all
  · rw [closes, List.append_assoc, List.singleton_append, List.splitOn_append_cons_self]
    refine List.mem_append_right _ ?_
    rcases ends with rfl | ⟨behind, rfl⟩
    · simp
    · have cut := List.splitOn_append_cons_self (a := '.') [] behind
      simp_all

/-- An empty part is no name. -/
theorem segments?_eq_none (empty : [] ∈ s.splitOn '.') : q.segments? s = none := by
  cases read : q.segments? s with
  | none => rfl
  | some segments =>
      obtain ⟨spelled, names, starred, cut, -, bare, spells, -⟩ := spells_of_segmentsOf? read
      rw [cut] at empty
      rcases List.mem_append.mp empty with inside | star
      · exact absurd inside (nil_not_mem_spelledAll bare spells)
      · cases starred <;> simp [wildcard] at star

theorem quote_of_segments?_none (read : q.segments? s = none) : q.quote s = s := by
  simp [quote, read]

theorem quote_of_segments? {segments : List Segment} (noLiteral : isLiteral s = false)
    (read : q.segments? s = some segments) : q.quote s = q.render segments := by
  simp [quote, noLiteral, read]

/-- Quoting leaves a text alone in which every name is quoted. -/
theorem quote_enclosed (some : names ≠ []) (bare : ∀ name ∈ names, isBare name = true)
    (starred : Bool) :
    q.quote (['.'].intercalate (names.map q.enclose ++ wildcard starred)) =
      ['.'].intercalate (names.map q.enclose ++ wildcard starred) := by
  by_cases dot : q.opening = '.' ∨ q.closing = '.'
  · obtain ⟨first, rest, rfl⟩ := List.exists_cons_of_ne_nil some
    exact quote_of_segments?_none (segments?_eq_none (nil_mem_splitOn_enclosed dot first _))
  · have undotted : ∀ part ∈ names.map q.enclose, '.' ∉ part := by
      intro part member
      obtain ⟨name, listed, rfl⟩ := List.mem_map.mp member
      push Not at dot
      simp [enclose, undotted_of_isBare (bare name listed), dot.1.symm, dot.2.symm]
    have read := segments?_readable (readableAll_enclose bare) some undotted starred
    cases literal : isLiteral (['.'].intercalate (names.map q.enclose ++ wildcard starred)) with
    | true => simp [quote, literal]
    | false => rw [quote_of_segments? literal read, render_segmentsOf]

theorem quote_quote (q : Quotes) (s : List Char) : q.quote (q.quote s) = q.quote s := by
  cases literal : isLiteral s with
  | true =>
      have same : q.quote s = s := by simp [quote, literal]
      rw [same, same]
  | false =>
      cases read : q.segments? s with
      | none => rw [quote_of_segments?_none read, quote_of_segments?_none read]
      | some segments =>
          obtain ⟨names, starred, dotted, rfl⟩ := dotted_of_segments? read
          rw [quote_of_segments? literal read, render_segmentsOf]
          exact quote_enclosed dotted.some dotted.bare starred

/-! ## Names and quotes apart -/

section Apart

variable (apart : q.Apart)

include apart

/-- A text spells its names in one way only. -/
theorem segments?_dotted (dotted : q.Dotted s names starred) :
    q.segments? s = some (segmentsOf names starred) := by
  obtain ⟨some, bare, parts, spells, rfl⟩ := dotted
  exact segments?_readable (readableAll_spelled apart bare spells) some
    (undotted_spelledAll apart bare spells) starred

theorem isIdentifier_iff (s : List Char) :
    q.isIdentifier s = true ↔ ∃ names starred, q.Dotted s names starred := by
  rw [isIdentifier, Option.isSome_iff_exists]
  constructor
  · rintro ⟨segments, read⟩
    obtain ⟨names, starred, dotted, -⟩ := dotted_of_segments? read
    exact ⟨names, starred, dotted⟩
  · rintro ⟨names, starred, dotted⟩
    exact ⟨_, segments?_dotted apart dotted⟩

/-- Quoting gives the spelling with every name quoted. -/
theorem quote_dotted (dotted : q.Dotted s names starred)
    (noNull : sameIgnoringCase s ['n', 'u', 'l', 'l'] = false) :
    q.quote s = ['.'].intercalate (names.map q.enclose ++ wildcard starred) := by
  have read := segments?_dotted apart dotted
  have noMarker : (s == ['?']) = false := by
    rw [beq_eq_false_iff_ne]
    rintro rfl
    rw [segments?_marker] at read
    cases read
  rw [quote_of_segments? (by rw [isLiteral, noMarker, noNull]; rfl) read, render_segmentsOf]

/-- Unquoting gives the spelling with every name bare. -/
theorem unquote_dotted (dotted : q.Dotted s names starred) :
    q.unquote s = ['.'].intercalate (names ++ wildcard starred) := by
  obtain ⟨some, bare, parts, spells, rfl⟩ := dotted
  have several : parts ≠ [] := by
    rintro rfl
    cases spells
    exact some rfl
  have star : (wildcard starred).map q.strip = wildcard starred := by
    cases starred <;> simp [wildcard, strip, inner?]
  rw [unquote, splitOn_joined several (undotted_spelledAll apart bare spells), List.map_append,
    map_strip_spelled apart bare spells, star]

end Apart

/-- The quoted spelling and the bare one spell the same names. -/
theorem Dotted.normal (dotted : q.Dotted s names starred) :
    q.Dotted (['.'].intercalate (names.map q.enclose ++ wildcard starred)) names starred ∧
      q.Dotted (['.'].intercalate (names ++ wildcard starred)) names starred := by
  obtain ⟨some, bare, -⟩ := dotted
  refine ⟨⟨some, bare, _, ?_, rfl⟩, ⟨some, bare, _, ?_, rfl⟩⟩
  · rw [SpellsAll, List.forall₂_map_left_iff, List.forall₂_same]
    exact fun name _ => .inr rfl
  · rw [SpellsAll, List.forall₂_same]
    exact fun name _ => .inl rfl

/-- **Quoting is idempotent and loses what unquoting loses.** Quoting a quoted text changes nothing,
for all quote characters. When these are neither characters of names nor a `.`, an identifier other
than the null literal is written with each of its names in one quote pair, in which no quote stands,
and with the `*` behind them as it is; unquoting that is unquoting the text itself; and two
identifiers have the same quoted text exactly if they have the same unquoted one. -/
theorem quoting_laws (q : Quotes) :
    (∀ s, q.quote (q.quote s) = q.quote s) ∧
    (q.Apart →
      (∀ s, q.isIdentifier s = true ↔ ∃ names starred, q.Dotted s names starred) ∧
      (∀ s names starred, q.Dotted s names starred →
        sameIgnoringCase s ['n', 'u', 'l', 'l'] = false →
          q.quote s = ['.'].intercalate (names.map q.enclose ++ wildcard starred) ∧
          (∀ name ∈ names, q.opening ∉ name ∧ q.closing ∉ name) ∧
          q.unquote (q.quote s) = q.unquote s) ∧
      ∀ s t, q.isIdentifier s = true → q.isIdentifier t = true →
        sameIgnoringCase s ['n', 'u', 'l', 'l'] = false →
        sameIgnoringCase t ['n', 'u', 'l', 'l'] = false →
          (q.quote s = q.quote t ↔ q.unquote s = q.unquote t)) := by
  refine ⟨quote_quote q, fun apart => ⟨isIdentifier_iff apart, ?_, ?_⟩⟩
  · intro s names starred dotted noNull
    refine ⟨quote_dotted apart dotted noNull, fun name member => ?_, ?_⟩
    · have continues := continuesName_of_isBare (dotted.bare name member)
      constructor
      · intro inside
        simpa [apart.opening] using continues _ inside
      · intro inside
        simpa [apart.closing] using continues _ inside
    · rw [quote_dotted apart dotted noNull, unquote_dotted apart dotted.normal.1,
        unquote_dotted apart dotted]
  · intro s t identifier identifier' noNull noNull'
    obtain ⟨names, starred, dotted⟩ := (isIdentifier_iff apart s).mp identifier
    obtain ⟨names', starred', dotted'⟩ := (isIdentifier_iff apart t).mp identifier'
    constructor
    · intro same
      rw [unquote_dotted apart dotted, unquote_dotted apart dotted',
        ← unquote_dotted apart dotted.normal.1, ← unquote_dotted apart dotted'.normal.1,
        ← quote_dotted apart dotted noNull, ← quote_dotted apart dotted' noNull', same]
    · -- the bare spelling is read into the same segments as the text itself
      intro same
      rw [unquote_dotted apart dotted, unquote_dotted apart dotted'] at same
      have read := segments?_dotted apart dotted.normal.2
      rw [same, segments?_dotted apart dotted'.normal.2] at read
      rw [quote_dotted apart dotted noNull, quote_dotted apart dotted' noNull', ← render_segmentsOf,
        ← render_segmentsOf, Option.some.inj read]

/-- The columns of a table in two spellings. -/
theorem bracketedColumns_quoted :
    let q := Dialect.mssql.quotes
    let s := "dbo.[users].*".toList
    let t := "[dbo].users.*".toList
    q.Apart ∧ q.quote s = "[dbo].[users].*".toList ∧ q.quote (q.quote s) = q.quote s ∧
      q.unquote (q.quote s) = "dbo.users.*".toList ∧ q.quote s = q.quote t := by
  intro q s t
  have apart : q.Apart := by decide
  obtain ⟨again, laws⟩ := quoting_laws q
  obtain ⟨identifier, written, identified⟩ := laws apart
  have spelled : q.Dotted s ["dbo".toList, "users".toList] true :=
    ⟨by decide, by decide, ["dbo".toList, "[users]".toList],
      .cons (.inl rfl) (.cons (.inr rfl) .nil), by decide⟩
  have spelled' : q.Dotted t ["dbo".toList, "users".toList] true :=
    ⟨by decide, by decide, ["[dbo]".toList, "users".toList],
      .cons (.inr rfl) (.cons (.inl rfl) .nil), by decide⟩
  obtain ⟨quoted, -, unquoted⟩ := written s _ _ spelled (by decide)
  have same : q.unquote s = q.unquote t := by decide
  refine ⟨apart, quoted.trans (by decide), again s, unquoted.trans (by decide), ?_⟩
  exact (identified s t ((identifier s).mpr ⟨_, _, spelled⟩) ((identifier t).mpr ⟨_, _, spelled'⟩)
    (by decide) (by decide)).mpr same

end Quotes

end QueryBind
