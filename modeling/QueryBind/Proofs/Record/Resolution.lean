/-
# QueryBind.Proofs.Record.Resolution — which field a column stands for

A type shows a scalar field within seven levels under its dotted name (`Schema.Shows`). A column
stands for the first field of that name, and only if there is none for the first one whose name ends
in the column after a dot (`Schema.StandsFor`); here "first" is in table order, the lexicographic
order of the trails. Both are said without the list of leaves, which enters by
`resolve?_eq_some_iff`: a search through leaves whose trails increase finds the least trail
(`List.find?_eq_some_iff_least`).

No table of 254 fields or fewer has an index that a path cannot keep, so columns that are all known
always have their paths, and a mapping can only fail on an unknown column.
-/
import QueryBind.Proofs.Record.Flattening
import QueryBind.Proofs.Record.Layering

namespace QueryBind

set_option autoImplicit false

namespace Schema

/-! ## Fields by name -/

/-- The trail leads to a scalar field within seven levels, and this is its dotted name. -/
structure Shows (s : Schema) (type : Nat) (name : String) (trail : List Nat) : Prop where
  scalar : s.IsScalar type trail
  short : trail.length ≤ FieldPath.maxDepth
  name : name = Leaf.dotted (s.names type trail)

/-- The name ends in the column after a dot. -/
def EndsIn (name column : String) : Prop := ∃ above, name = above ++ "." ++ column

/-- The trail leads to a field whose name ends in the column. -/
def ShowsEnd (s : Schema) (type : Nat) (column : String) (trail : List Nat) : Prop :=
  ∃ name, EndsIn name column ∧ s.Shows type name trail

/-- The trail comes first in table order among those with a property. -/
def First (P : List Nat → Prop) (trail : List Nat) : Prop :=
  P trail ∧ ∀ other, P other → trail = other ∨ trail < other

/-- The column stands for the field at the end of the trail: the first one of that name, wherever
it comes, or else the first one whose name ends in the column. -/
def StandsFor (s : Schema) (type : Nat) (column : String) (trail : List Nat) : Prop :=
  First (s.Shows type column) trail ∨
    (∀ other, ¬ s.Shows type column other) ∧ First (s.ShowsEnd type column) trail

/-- The column is the name of a field, or the end of one after a dot. -/
def Knows (s : Schema) (type : Nat) (column : String) : Prop :=
  ∃ trail, s.Shows type column trail ∨ s.ShowsEnd type column trail

variable {s : Schema} {type : Nat} {column : String}

theorem shows_iff_mem {name : String} {trail : List Nat} :
    s.Shows type name trail ↔ ⟨name, trail⟩ ∈ s.leaves type := by
  rw [mem_leaves_iff]
  exact ⟨fun shown => ⟨shown.scalar, shown.short, shown.name⟩,
    fun ⟨scalar, short, name⟩ => ⟨scalar, short, name⟩⟩

theorem hasSuffix_iff {leaf : Leaf} :
    leaf.hasSuffix column = true ↔ EndsIn leaf.name column := by
  rw [Leaf.hasSuffix, List.isSuffixOf_iff_suffix]
  constructor
  · rintro ⟨above, split⟩
    refine ⟨String.ofList above, String.toList_inj.mp ?_⟩
    simp [← split]
  · rintro ⟨above, split⟩
    exact ⟨above.toList, by simp [split]⟩

/-! ## Resolved columns -/

theorem Shows.unique {name name' : String} {trail : List Nat} (shown : s.Shows type name trail)
    (shown' : s.Shows type name' trail) : name = name' :=
  shown.name.trans shown'.name.symm

/-- A search through the leaves finds the first field whose name passes. -/
theorem find?_leaves_eq_some_iff {P : String → Prop} {p : Leaf → Bool}
    (tests : ∀ leaf, p leaf = true ↔ P leaf.name) {leaf : Leaf} :
    (s.leaves type).find? p = some leaf ↔
      (s.Shows type leaf.name leaf.trail ∧ P leaf.name) ∧
        ∀ name other, s.Shows type name other → P name → leaf.trail = other ∨ leaf.trail < other := by
  have increasing : (s.leaves type).Pairwise fun leaf later => leaf.trail < later.trail :=
    leavesFrom_increasing _ _ _ _
  rw [List.find?_eq_some_iff_least increasing fun _ _ => List.lt_asymm, ← shows_iff_mem, tests]
  refine and_congr_right fun ⟨shown, _⟩ => ⟨fun least name other shown' passes => ?_,
    fun least ⟨name, other⟩ member passes => ?_⟩
  · refine (least ⟨name, other⟩ (shows_iff_mem.mp shown') ((tests _).mpr passes)).imp_left ?_
    exact congrArg Leaf.trail
  · have shown' := shows_iff_mem.mpr member
    refine (least name other shown' ((tests _).mp passes)).imp_left fun same => ?_
    subst same
    exact congrArg (Leaf.mk · leaf.trail) (shown.unique shown')

theorem find?_leaves_eq_none_iff {P : String → Prop} {p : Leaf → Bool}
    (tests : ∀ leaf, p leaf = true ↔ P leaf.name) :
    (s.leaves type).find? p = none ↔ ∀ name other, s.Shows type name other → ¬ P name := by
  rw [List.find?_eq_none]
  constructor
  · intro none_passes name other shown passes
    exact none_passes _ (shows_iff_mem.mp shown) ((tests _).mpr passes)
  · intro none_passes leaf member passes
    exact none_passes _ _ (shows_iff_mem.mpr member) ((tests _).mp passes)

theorem find?_named_eq_none_iff : ((s.leaves type).find? fun leaf => leaf.name == column) = none ↔
    ∀ other, ¬ s.Shows type column other := by
  rw [find?_leaves_eq_none_iff (P := (· = column)) fun leaf => beq_iff_eq]
  exact ⟨fun none_named other shown => none_named column other shown rfl,
    fun none_named name other shown same => none_named other (same ▸ shown)⟩

theorem resolve?_eq_some_iff {leaf : Leaf} : resolve? (s.leaves type) column = some leaf ↔
    s.Shows type leaf.name leaf.trail ∧ s.StandsFor type column leaf.trail := by
  rw [resolve?, Option.or_eq_some_iff, find?_named_eq_none_iff,
    find?_leaves_eq_some_iff (P := (· = column)) fun leaf => beq_iff_eq,
    find?_leaves_eq_some_iff (P := (EndsIn · column)) fun leaf => hasSuffix_iff]
  constructor
  · rintro (⟨⟨shown, rfl⟩, least⟩ | ⟨unnamed, ⟨shown, ends⟩, least⟩)
    · exact ⟨shown, .inl ⟨shown, fun other shown' => least _ other shown' rfl⟩⟩
    · refine ⟨shown, .inr ⟨unnamed, ⟨_, ends, shown⟩, ?_⟩⟩
      rintro other ⟨name, ends', shown'⟩
      exact least name other shown' ends'
  · rintro ⟨shown, ⟨named, least⟩ | ⟨unnamed, ⟨name, ends, shown'⟩, least⟩⟩
    · refine .inl ⟨⟨shown, shown.unique named⟩, fun name other shown' same => ?_⟩
      exact least other (same ▸ shown')
    · exact .inr ⟨unnamed, ⟨shown, shown'.unique shown ▸ ends⟩,
        fun name other shown' ends' => least other ⟨name, ends', shown'⟩⟩

theorem resolve?_eq_none_iff : resolve? (s.leaves type) column = none ↔ ¬ s.Knows type column := by
  rw [resolve?, Option.or_eq_none_iff, find?_named_eq_none_iff,
    find?_leaves_eq_none_iff (P := (EndsIn · column)) fun leaf => hasSuffix_iff, Knows, not_exists]
  constructor
  · rintro ⟨unnamed, unended⟩ trail (shown | ⟨name, ends, shown⟩)
    · exact unnamed trail shown
    · exact unended name trail shown ends
  · intro unknown
    exact ⟨fun trail shown => unknown trail (.inl shown),
      fun name trail shown ends => unknown trail (.inr ⟨name, ends, shown⟩)⟩

/-! ## Paths -/

/-- The tables of a type and of the records below it have at most 254 fields. -/
def Compact (s : Schema) (type : Nat) : Prop :=
  ∀ way inner hold, s.shapeAt? type way = some (.nested inner hold) → (s.fields inner).length ≤ 254

theorem compact_of_forall (few : ∀ table ∈ s, table.fields.length ≤ 254) (type : Nat) :
    s.Compact type :=
  fun _ inner _ _ => length_fields_le few inner

theorem Compact.exists_path (compact : s.Compact type) {name : String} {trail : List Nat}
    (shown : s.Shows type name trail) : ∃ path, FieldPath.ofIndices trail = .ok path := by
  refine FieldPath.exists_ofIndices (trail_ne_nil shown.scalar) shown.short fun i member => ?_
  exact Nat.lt_succ_of_lt (lt_of_mem_trail compact shown.scalar i member)

/-- The path of one column, or the error. -/
def pathOf (s : Schema) (type : Nat) (column : String) : Except BindingError FieldPath :=
  match resolve? (s.leaves type) column with
  | some leaf => FieldPath.ofIndices leaf.trail
  | none => .error (.unknownColumn column (s.typeName type))

theorem mapping_eq_mapM (columns : List String) :
    s.mapping type columns = columns.mapM (s.pathOf type) := rfl

theorem pathOf_eq_ok_iff {path : FieldPath} : s.pathOf type column = .ok path ↔
    s.StandsFor type column path.indices ∧ FieldPath.ofIndices path.indices = .ok path := by
  rw [pathOf]
  constructor
  · intro ok
    split at ok
    · next leaf resolved =>
        rw [FieldPath.indices_ofIndices ok]
        exact ⟨(resolve?_eq_some_iff.mp resolved).2, ok⟩
    · cases ok
  · rintro ⟨stands, packed⟩
    have shown : ∃ name, s.Shows type name path.indices := by
      rcases stands with ⟨named, -⟩ | ⟨-, ⟨name, -, shown⟩, -⟩
      · exact ⟨column, named⟩
      · exact ⟨name, shown⟩
    obtain ⟨name, shown⟩ := shown
    have resolved : resolve? (s.leaves type) column = some ⟨name, path.indices⟩ :=
      resolve?_eq_some_iff.mpr ⟨shown, stands⟩
    rw [resolved]
    exact packed

theorem Compact.pathOf_eq_error_iff (compact : s.Compact type) {e : BindingError} :
    s.pathOf type column = .error e ↔
      ¬ s.Knows type column ∧ e = .unknownColumn column (s.typeName type) := by
  rw [pathOf, ← resolve?_eq_none_iff]
  split
  · next leaf resolved =>
      obtain ⟨path, packed⟩ := compact.exists_path (resolve?_eq_some_iff.mp resolved).1
      simp [resolved, packed]
  · next unresolved => simp [unresolved, eq_comm]

theorem Compact.exists_pathOf_iff (compact : s.Compact type) :
    (∃ path, s.pathOf type column = .ok path) ↔ s.Knows type column := by
  constructor
  · rintro ⟨path, ok⟩
    by_contra unknown
    rw [compact.pathOf_eq_error_iff.mpr ⟨unknown, rfl⟩] at ok
    cases ok
  · intro known
    cases found : s.pathOf type column with
    | ok path => exact ⟨path, rfl⟩
    | error e => exact absurd known (compact.pathOf_eq_error_iff.mp found).1

/-- **Columns resolve by name, then by ending, each to the first field in table order.** Let the
tables of a type and of the records below it have at most 254 fields. For any columns:

* there is a mapping if and only if each column is the dotted name of a scalar field within seven
  levels, or the end of one after a dot;
* otherwise the error names the first column that is neither, and there is no other error;
* a mapping has one path for each column, in order, that of the first field of that name, or, if no
  field has it, of the first one whose name ends in it. -/
theorem columns_resolve_in_order (compact : s.Compact type) (columns : List String) :
    ((∃ paths, s.mapping type columns = .ok paths) ↔ ∀ column ∈ columns, s.Knows type column) ∧
      (∀ e, s.mapping type columns = .error e ↔ ∃ earlier column later,
        columns = earlier ++ column :: later ∧ (∀ other ∈ earlier, s.Knows type other) ∧
          ¬ s.Knows type column ∧ e = .unknownColumn column (s.typeName type)) ∧
      ∀ paths, s.mapping type columns = .ok paths ↔
        List.Forall₂ (fun column path => s.StandsFor type column path.indices ∧
          FieldPath.ofIndices path.indices = .ok path) columns paths := by
  simp only [mapping_eq_mapM]
  refine ⟨⟨?_, fun known => ?_⟩, fun e => ?_, fun paths => ?_⟩
  · rintro ⟨paths, ok⟩ column member
    obtain ⟨i, inside, rfl⟩ := List.getElem_of_mem member
    have mapped := List.mapM_eq_ok_iff.mp ok
    exact compact.exists_pathOf_iff.mp ⟨_, mapped.get inside (mapped.length_eq ▸ inside)⟩
  · obtain ⟨paths, mapped⟩ := List.exists_forall₂ fun column member =>
      compact.exists_pathOf_iff.mpr (known column member)
    exact ⟨paths, List.mapM_eq_ok_iff.mpr mapped⟩
  · rw [List.mapM_eq_error_iff]
    simp only [compact.exists_pathOf_iff, compact.pathOf_eq_error_iff]
  · rw [List.mapM_eq_ok_iff]
    simp only [pathOf_eq_ok_iff]

/-- Loans of books, each with the loan it renews. -/
def loans : Schema :=
  [⟨"Loan", [⟨"book", .nested 1 .inline⟩, ⟨"title", .scalar (.required .text)⟩,
      ⟨"renewed", .nested 0 .optional⟩]⟩,
    ⟨"Book", [⟨"title", .scalar (.required .text)⟩, ⟨"shelf", .scalar (.required .int64)⟩]⟩]

/-- The title of a loan goes before the title of its book, which comes first in the table; a shelf is
that of the loan's own book; the first of two columns without a field is named. -/
theorem loans_columns_resolve :
    let columns := ["title", "shelf", "renewed.book.title"]
    loans.Compact 0 ∧
      (∃ paths, loans.mapping 0 columns = .ok paths ∧
        List.Forall₂ (fun column path => loans.StandsFor 0 column path.indices ∧
          FieldPath.ofIndices path.indices = .ok path) columns paths ∧
        paths.map (·.indices) = [[1], [0, 1], [2, 0, 0]]) ∧
      (∀ column ∈ columns, loans.Knows 0 column) ∧ ¬ loans.Knows 0 "price" ∧
      loans.mapping 0 ["title", "price", "due"] = .error (.unknownColumn "price" "Loan") := by
  intro columns
  have compact : loans.Compact 0 := compact_of_forall (by decide) 0
  have compiled : loans.mapping 0 columns = .ok ([[1], [0, 1], [2, 0, 0]].map fun trail =>
      FieldPath.mk (UInt64.ofNat (FieldPath.pack 8 trail))) := by decide +kernel
  have failed : loans.mapping 0 ["title", "price", "due"] =
      .error (.unknownColumn "price" "Loan") := by decide +kernel
  obtain ⟨known, -, resolve⟩ := columns_resolve_in_order compact columns
  obtain ⟨-, fails, -⟩ := columns_resolve_in_order compact ["title", "price", "due"]
  obtain ⟨-, column, -, -, -, unknown, named⟩ := (fails _).mp failed
  obtain ⟨rfl, -⟩ : "price" = column ∧ "Loan" = loans.typeName 0 := by simpa using named
  exact ⟨compact, ⟨_, compiled, (resolve _).mp compiled, by decide⟩, known.mp ⟨_, compiled⟩, unknown,
    failed⟩

end Schema

end QueryBind
