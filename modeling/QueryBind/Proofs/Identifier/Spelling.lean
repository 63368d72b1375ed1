/-
# QueryBind.Proofs.Identifier.Spelling — the ways to write a dotted name

A name is spelled bare or between the quote pair, and a dotted name part by part, so that a name of
`n` parts has `2 ^ n` spellings (`Quotes.Spells`). What is read into segments spells their names
(`spells_of_segmentsOf?`). When the quote characters cannot be taken for part of a name
(`Quotes.Apart`), quoting and unquoting do not depend on the spelling: every one is read into the
same segments (`segments?_spelled`), quoted into the fully quoted one (`quote_spelled`) and unquoted
into the bare one (`unquote_spelled`).
-/
import QueryBind.Identifier
import QueryBind.Proofs.Data.List

namespace QueryBind

set_option autoImplicit false

open Identifier

/-! ## Characters of names -/

namespace Identifier

theorem continuesName_of_startsName {c : Char} (starts : startsName c = true) :
    continuesName c = true := by
  simp only [startsName, Bool.or_eq_true, beq_iff_eq] at starts
  rcases starts with rfl | letter
  · decide
  · simp [continuesName, Char.isAlphanum, letter]

/-- Every character of a bare name continues one. -/
theorem continuesName_of_isBare {name : List Char} (bare : isBare name = true) :
    ∀ c ∈ name, continuesName c = true := by
  cases name with
  | nil => cases bare
  | cons first rest =>
      simp only [isBare, Bool.and_eq_true, List.all_eq_true] at bare
      intro c member
      rcases List.mem_cons.mp member with rfl | member
      · exact continuesName_of_startsName bare.1
      · exact bare.2 c member

theorem undotted_of_isBare {name : List Char} (bare : isBare name = true) : '.' ∉ name := by
  intro member
  have continues := continuesName_of_isBare bare '.' member
  revert continues
  decide

/-! ## Segments -/

/-- What stands behind the names of an identifier: a `*` as a further part, or nothing. -/
def wildcard (starred : Bool) : List (List Char) := if starred then [['*']] else []

/-- The segments of an identifier. -/
def segmentsOf (names : List (List Char)) (starred : Bool) : List Segment :=
  names.map .name ++ if starred then [.star] else []

end Identifier

namespace Quotes

variable {q : Quotes}

/-- Neither quote character can stand in a name or between two. -/
structure Apart (q : Quotes) : Prop where
  opening : continuesName q.opening = false
  closing : continuesName q.closing = false
  openingDot : q.opening ≠ '.'
  closingDot : q.closing ≠ '.'

instance (q : Quotes) : Decidable q.Apart :=
  decidable_of_iff (continuesName q.opening = false ∧ continuesName q.closing = false ∧
      q.opening ≠ '.' ∧ q.closing ≠ '.')
    ⟨fun ⟨a, b, c, d⟩ => ⟨a, b, c, d⟩, fun ⟨a, b, c, d⟩ => ⟨a, b, c, d⟩⟩

/-- The part is the name, bare or quoted. -/
def Spells (q : Quotes) (part name : List Char) : Prop := part = name ∨ part = q.enclose name

/-- The part is read as the name. -/
def Readable (q : Quotes) (part name : List Char) : Prop :=
  part ≠ ['*'] ∧ q.name? part = some name

/-! ## One part -/

@[simp] theorem inner?_enclose (q : Quotes) (name : List Char) :
    q.inner? (q.enclose name) = some name := by
  simp [inner?, enclose]

/-- A bare name is not enclosed. -/
theorem inner?_bare (apart : q.Apart) {name : List Char} (bare : isBare name = true) :
    q.inner? name = none := by
  cases name with
  | nil => cases bare
  | cons first rest =>
      have continues := continuesName_of_isBare bare first List.mem_cons_self
      have unquoted : first ≠ q.opening := by
        rintro rfl
        rw [apart.opening] at continues
        cases continues
      simp [inner?, unquoted]

theorem name?_spelled (apart : q.Apart) {part name : List Char} (bare : isBare name = true)
    (spells : q.Spells part name) : q.name? part = some name := by
  rcases spells with rfl | rfl
  · simp [name?, inner?_bare apart bare, bare]
  · have named : (some name).filter isBare = some name := by simp [Option.filter, bare]
    rw [name?, inner?_enclose, named]

theorem strip_spelled (apart : q.Apart) {part name : List Char} (bare : isBare name = true)
    (spells : q.Spells part name) : q.strip part = name := by
  rcases spells with rfl | rfl
  · simp [strip, inner?_bare apart bare]
  · simp [strip]

theorem undotted_spelled (apart : q.Apart) {part name : List Char} (bare : isBare name = true)
    (spells : q.Spells part name) : '.' ∉ part := by
  have undotted := undotted_of_isBare bare
  rcases spells with rfl | rfl
  · exact undotted
  · simp [enclose, undotted, apart.openingDot.symm, apart.closingDot.symm]

theorem spelled_ne_star {part name : List Char} (bare : isBare name = true)
    (spells : q.Spells part name) : part ≠ ['*'] := by
  rintro rfl
  rcases spells with rfl | quoted
  · revert bare
    decide
  · cases name with
    | nil => cases bare
    | cons c rest => simp [enclose] at quoted

theorem eq_enclose_of_inner? {part inner : List Char} (enclosed : q.inner? part = some inner) :
    part = q.enclose inner := by
  cases part with
  | nil => cases enclosed
  | cons c rest =>
      simp only [inner?] at enclosed
      split at enclosed
      · next quoted =>
          obtain ⟨rfl, last⟩ := quoted
          obtain rfl : rest.dropLast = inner := by simpa using enclosed
          rw [enclose, List.cons_append, List.dropLast_append_getLast? _ last]
      · cases enclosed

/-- A part that is read as a name spells it. -/
theorem spells_of_name? {part name : List Char} (read : q.name? part = some name) :
    isBare name = true ∧ q.Spells part name := by
  unfold name? at read
  split at read
  · next inner found =>
      cases read
      have bare : isBare name = true := (Option.filter_eq_some_iff.mp found).2
      exact ⟨bare, .inr (eq_enclose_of_inner? (Option.eq_some_of_filter_eq_some found))⟩
  · split at read
    · next bare =>
        cases read
        exact ⟨bare, .inl rfl⟩
    · cases read

/-! ## Dotted names -/

/-- The parts spell the names. -/
abbrev SpellsAll (q : Quotes) (parts names : List (List Char)) : Prop :=
  List.Forall₂ q.Spells parts names

section Dotted

variable {parts names : List (List Char)}

/-- Parts that are read as segments spell names, with a `*` behind them or not. -/
theorem spells_of_segmentsOf? {isFirst : Bool} {segments : List Segment}
    (read : q.segmentsOf? isFirst parts = some segments) :
    ∃ spelled names starred, parts = spelled ++ wildcard starred ∧
      segments = segmentsOf names starred ∧ (∀ name ∈ names, isBare name = true) ∧
      q.SpellsAll spelled names ∧ (isFirst = true → starred = true → names ≠ []) := by
  induction parts generalizing isFirst segments with
  | nil =>
      cases read
      exact ⟨[], [], false, rfl, rfl, by simp, .nil, by simp⟩
  | cons part rest ih =>
      simp only [segmentsOf?] at read
      split at read
      · next star =>
          split at read
          · next last =>
              cases read
              simp only [Bool.and_eq_true, List.isEmpty_iff, Bool.not_eq_true'] at last
              obtain ⟨rfl, later⟩ := last
              exact ⟨[], [], true, by rw [star]; rfl, rfl, by simp, .nil, by simp [later]⟩
          · cases read
      · split at read
        · next name segments' named onward =>
            cases read
            obtain ⟨spelled, names, starred, rfl, rfl, bare, spells, -⟩ := ih onward
            obtain ⟨here, first⟩ := spells_of_name? named
            exact ⟨part :: spelled, name :: names, starred, rfl, rfl,
              List.forall_mem_cons.mpr ⟨here, bare⟩, .cons first spells, by simp⟩
        · cases read

theorem undotted_spelledAll (apart : q.Apart) (bare : ∀ name ∈ names, isBare name = true)
    (spells : q.SpellsAll parts names) : ∀ part ∈ parts, '.' ∉ part := by
  induction spells with
  | nil => simp
  | cons first rest ih =>
      have later := ih fun name member => bare name (List.mem_cons_of_mem _ member)
      intro part member
      rcases List.mem_cons.mp member with rfl | member
      · exact undotted_spelled apart (bare _ List.mem_cons_self) first
      · exact later part member

theorem readableAll_spelled (apart : q.Apart) (bare : ∀ name ∈ names, isBare name = true)
    (spells : q.SpellsAll parts names) : List.Forall₂ q.Readable parts names := by
  induction spells with
  | nil => exact .nil
  | cons first rest ih =>
      obtain ⟨here, later⟩ := List.forall_mem_cons.mp bare
      exact .cons ⟨spelled_ne_star here first, name?_spelled apart here first⟩ (ih later)

/-- Splitting a spelling at its dots gives its parts. -/
theorem splitOn_spelled (apart : q.Apart) (some : names ≠ [])
    (bare : ∀ name ∈ names, isBare name = true) (spells : q.SpellsAll parts names) :
    (['.'].intercalate parts).splitOn '.' = parts := by
  refine List.splitOn_intercalate '.' (undotted_spelledAll apart bare spells) ?_
  rintro rfl
  cases spells
  exact some rfl

/-- Parts that stand for names are read one by one, whatever follows them. -/
theorem segmentsOf?_readable_append (readable : List.Forall₂ q.Readable parts names)
    (isFirst : Bool) (rest : List (List Char)) : q.segmentsOf? isFirst (parts ++ rest) =
      (q.segmentsOf? (isFirst && parts.isEmpty) rest).map (names.map .name ++ ·) := by
  induction readable generalizing isFirst with
  | nil => simp
  | cons here later ih =>
      rw [List.cons_append, segmentsOf?, if_neg here.1, here.2, ih false]
      simp only [Bool.false_and, List.isEmpty_cons, Bool.and_false]
      cases q.segmentsOf? false rest <;> rfl

theorem segmentsOf?_spelled (apart : q.Apart) (bare : ∀ name ∈ names, isBare name = true)
    (spells : q.SpellsAll parts names) (isFirst : Bool) :
    q.segmentsOf? isFirst parts = some (names.map .name) := by
  have readable := readableAll_spelled apart bare spells
  simpa [segmentsOf?] using segmentsOf?_readable_append readable isFirst []

theorem segments?_spelled (apart : q.Apart) (some : names ≠ [])
    (bare : ∀ name ∈ names, isBare name = true) (spells : q.SpellsAll parts names) :
    q.segments? (['.'].intercalate parts) = Option.some (names.map .name) := by
  rw [segments?, splitOn_spelled apart some bare spells]
  exact segmentsOf?_spelled apart bare spells true

theorem map_strip_spelled (apart : q.Apart) (bare : ∀ name ∈ names, isBare name = true)
    (spells : q.SpellsAll parts names) : parts.map q.strip = names := by
  induction spells with
  | nil => rfl
  | cons first rest ih =>
      obtain ⟨here, later⟩ := List.forall_mem_cons.mp bare
      rw [List.map_cons, strip_spelled apart here first, ih later]

/-- Unquoting gives the bare spelling. -/
theorem unquote_spelled (apart : q.Apart) (some : names ≠ [])
    (bare : ∀ name ∈ names, isBare name = true) (spells : q.SpellsAll parts names) :
    q.unquote (['.'].intercalate parts) = ['.'].intercalate names := by
  rw [unquote, splitOn_spelled apart some bare spells, map_strip_spelled apart bare spells]

/-- Quoting gives the spelling with every name quoted, except for a literal. -/
theorem quote_spelled (apart : q.Apart) (some : names ≠ [])
    (bare : ∀ name ∈ names, isBare name = true) (spells : q.SpellsAll parts names)
    (noLiteral : isLiteral (['.'].intercalate parts) = false) :
    q.quote (['.'].intercalate parts) = ['.'].intercalate (names.map q.enclose) := by
  rw [quote, noLiteral, segments?_spelled apart some bare spells]
  simp [render, renderSegment, Function.comp_def]

/-- A literal is one part. -/
theorem isLiteral_of_dot {s : List Char} (dotted : '.' ∈ s) : isLiteral s = false := by
  have noMarker : (s == ['?']) = false := by
    rw [beq_eq_false_iff_ne]
    rintro rfl
    revert dotted
    decide
  have noNull : Text.sameIgnoringCase s ['n', 'u', 'l', 'l'] = false := by
    rw [Text.sameIgnoringCase, beq_eq_false_iff_ne]
    intro same
    have inside : '.'.toLower ∈ Text.asciiLower s := List.mem_map_of_mem dotted
    rw [same] at inside
    revert inside
    decide
  rw [isLiteral, noMarker, noNull]
  rfl

end Dotted

end Quotes

end QueryBind
