/-
# QueryBind.Proofs.Query.Aliases — the alias of a column names the field it is read into

A joined SELECT gives a qualified column its dotted name as alias, and a row is read into the fields
that its column names stand for. The two sides share no definition: the alias is the column with its
quotes taken off (`Quotes.unquote_spelled`), the name of a field is composed on the way down
(`Schema.mem_leaves_of_scalar`). They meet in `aliases_name_leaves`: a column spelled after a scalar
field is aliased with the field's name, and that name is the name of a leaf, so that the column is
found by name and not by its suffix.

There are three limits:

* a field below more than seven levels is no leaf (`Schema.chain`);
* an index of 255 or more has no place in a path (`Schema.crowd`);
* a column whose text ends in `*` is taken for all columns and has no alias
  (`starredColumn`), although `*` may be the closing quote of its last part.
-/
import QueryBind.Proofs.Identifier.Spelling
import QueryBind.Proofs.Query.Window
import QueryBind.Proofs.Record.Leaves

namespace QueryBind

set_option autoImplicit false

open Identifier

/-! ## Names of fields -/

namespace Schema

/-- No table has more fields than a path has indices. The indices on the way to a field are not
enough of a bound: a column is resolved to the first leaf of its name, and that one can be an earlier
field which lies behind an index of 255 or more. -/
def Narrow (s : Schema) : Prop := ∀ table ∈ s, table.fields.length ≤ FieldPath.terminator

instance (s : Schema) : Decidable s.Narrow := inferInstanceAs (Decidable (∀ table ∈ s, _))

theorem Narrow.lt_terminator {s : Schema} (narrow : s.Narrow) {type : Nat} {trail : List Nat}
    (scalar : s.IsScalar type trail) : ∀ i ∈ trail, i < FieldPath.terminator :=
  lt_of_mem_trail (fun _ inner _ _ => length_fields_le narrow inner) scalar

/-- The name of a scalar field within seven levels is the name of a leaf, which has a path. -/
theorem exists_leaf_named {s : Schema} (narrow : s.Narrow) {type : Nat} {trail : List Nat}
    {t : FieldType} (leads : s.shapeAt? type trail = some (.scalar t))
    (short : trail.length ≤ FieldPath.maxDepth) :
    ∃ leaf path, (s.leaves type).find? (fun leaf => leaf.name == Leaf.dotted (s.names type trail)) =
        some leaf ∧
      leaf.name = Leaf.dotted (s.names type trail) ∧ FieldPath.ofIndices leaf.trail = .ok path := by
  have listed := mem_leaves_of_scalar leads short
  cases found : (s.leaves type).find? fun leaf => leaf.name == Leaf.dotted (s.names type trail) with
  | none =>
      have other := List.find?_eq_none.mp found _ listed
      simp at other
  | some leaf =>
      have named : leaf.name = Leaf.dotted (s.names type trail) := by
        simpa using List.find?_some found
      have member := List.mem_of_find?_eq_some found
      obtain ⟨t', leads', -⟩ := mem_leaves member
      have scalar : s.IsScalar type leaf.trail := ⟨t', leads'⟩
      have shallow : leaf.trail.length ≤ FieldPath.maxDepth := length_trail_le member
      obtain ⟨path, packed⟩ :=
        FieldPath.exists_ofIndices (trail_ne_nil scalar) shallow (narrow.lt_terminator scalar)
      exact ⟨leaf, path, rfl, named, packed⟩

end Schema

/-! ## Projections -/

namespace Query

theorem isBuilt_of_selects {q : Query} (select : q.selects = true) : q.IsBuilt := by
  intro sql args same
  rw [selects, same] at select
  cases select

theorem layout_of_selects {q : Query} (select : q.selects = true) : q.layout = q.selectLayout := by
  unfold selects at select
  unfold layout
  split at select
  · next same => rw [same]
  · next same => rw [same]
  · cases select

/-- The sections before the projection of a SELECT. -/
def prelude (q : Query) : List Section := q.preamble ++ [.keyword "SELECT "] ++ q.head

/-- The projection of a SELECT stands between its prelude and its tables. -/
theorem sql_of_selects {q : Query} (select : q.selects = true) :
    ∃ rest, q.render.sql.toList =
      Section.texts q.dialect 1 q.prelude ++ q.projection ++ " FROM ".toList ++ rest := by
  have split : q.selectLayout = q.prelude ++ .projection q.projection :: .keyword " FROM " ::
      (.tables q.tables :: (unlessEmpty q.joins .joins ++ q.tail)) := by
    simp [selectLayout, prelude]
  have projected (start : Nat) :
      (Section.projection q.projection).text q.dialect start = q.projection :=
    Symbol.render_ofText _ start _
  have keyword (start : Nat) :
      (Section.keyword " FROM ").text q.dialect start = " FROM ".toList :=
    Symbol.render_ofText _ start _
  rw [sql_of_isBuilt (isBuilt_of_selects select), layout_of_selects select, split,
    Section.texts_append, Section.texts, Section.texts, projected, keyword]
  exact ⟨_, by simp only [List.append_assoc]; rfl⟩

/-- A joined SELECT of named columns lists them with their aliases. -/
theorem projection_joined {q : Query} (joined : q.joins ≠ []) (all : q.distinct = none)
    (uncounted : q.counting = false) (named : q.columns ≠ []) :
    q.projection = listed (q.columns.map fun column => aliased q.dialect column.toList) := by
  have some : (q.columns.map String.toList).isEmpty = false := by simpa using named
  have joins : q.joins.isEmpty = false := by simpa using joined
  simp [projection, selection, all, uncounted, some, joins, Function.comp_def]

/-- A qualified column is given its bare spelling as alias. -/
theorem aliased_spelled {d : Dialect} (apart : d.quotes.Apart) {parts names : List (List Char)}
    (several : 2 ≤ names.length) (bare : ∀ name ∈ names, isBare name = true)
    (spells : d.quotes.SpellsAll parts names)
    (unstarred : (['.'].intercalate parts).getLast? ≠ some '*') :
    aliased d (['.'].intercalate parts) =
      ['.'].intercalate (names.map d.quotes.enclose) ++ " AS ".toList ++
        d.quotes.enclose (['.'].intercalate names) := by
  have some : names ≠ [] := by
    rintro rfl
    cases several
  have length : 2 ≤ parts.length := by
    rw [spells.length_eq]
    exact several
  have dot : '.' ∈ ['.'].intercalate parts := List.mem_intercalate_of_two_le length
  have identifier : d.quotes.isIdentifier (['.'].intercalate parts) = true := by
    rw [Quotes.isIdentifier, Quotes.segments?_spelled apart some bare spells]
    rfl
  have qualified : (['.'].intercalate parts).contains '.' = true := List.contains_iff_mem.mpr dot
  have noStar : ((['.'].intercalate parts).getLast? == Option.some '*') = false :=
    beq_eq_false_iff_ne.mpr unstarred
  rw [aliased, identifier, qualified, noStar, Dialect.quote,
    Quotes.quote_spelled apart some bare spells (Quotes.isLiteral_of_dot dot),
    Quotes.unquote_spelled apart some bare spells]
  rfl

/-- **The alias of a column names the field it is read into.** Let a scalar field within seven levels
have a dotted name of two or more bare parts, in a schema whose tables have at most 255 fields, so
that every leaf of that name has a path. In a SELECT with joins, neither distinct nor counted, a
column that spells that name, quoted part by part at will and not ending in `*`, is written as the
quoted name, with the name itself between one pair of quotes as alias. A result column of that name
is found among the leaves by exact match, and its path leads to a scalar field of that name, alone or
among any columns that compile. -/
theorem aliases_name_leaves {s : Schema} (narrow : s.Narrow) {type : Nat} {trail : List Nat}
    {t : FieldType} (leads : s.shapeAt? type trail = some (.scalar t))
    (short : trail.length ≤ FieldPath.maxDepth) {name : String}
    (dotted : Leaf.dotted (s.names type trail) = name)
    (several : 2 ≤ (name.toList.splitOn '.').length)
    (bare : ∀ part ∈ name.toList.splitOn '.', isBare part = true)
    {q : Query} (apart : q.dialect.quotes.Apart) (select : q.selects = true) (joined : q.joins ≠ [])
    (all : q.distinct = none) (uncounted : q.counting = false) {before after : List String}
    {column : String} (selected : q.columns = before ++ column :: after)
    (spells : q.dialect.quotes.SpellsAll (column.toList.splitOn '.') (name.toList.splitOn '.'))
    (unstarred : column.toList.getLast? ≠ some '*') :
    (∃ rest, q.render.sql.toList =
      Section.texts q.dialect 1 q.prelude ++
        listed (before.map (fun other => aliased q.dialect other.toList) ++
          (['.'].intercalate ((name.toList.splitOn '.').map q.dialect.quotes.enclose) ++
            " AS ".toList ++ q.dialect.quotes.enclose name.toList) ::
          after.map (fun other => aliased q.dialect other.toList)) ++
        " FROM ".toList ++ rest) ∧
      ∃ leaf path, (s.leaves type).find? (fun leaf => leaf.name == name) = some leaf ∧
        s.IsScalar type leaf.trail ∧ Leaf.dotted (s.names type leaf.trail) = name ∧
        path.indices = leaf.trail ∧ s.mapping type [name] = .ok [path] ∧
        ∀ columns paths, s.mapping type columns = .ok paths →
          List.Forall₂ (fun other found => other = name → found = path) columns paths := by
  subst dotted
  constructor
  · have spelled := aliased_spelled apart several bare spells
    simp only [List.intercalate_splitOn] at spelled
    have named : q.columns ≠ [] := by simp [selected]
    obtain ⟨rest, text⟩ := sql_of_selects select
    refine ⟨rest, ?_⟩
    rw [text, projection_joined joined all uncounted named, selected, List.map_append, List.map_cons,
      spelled unstarred]
  · obtain ⟨leaf, path, found, named, packed⟩ := Schema.exists_leaf_named narrow leads short
    obtain ⟨t', leads', spelled⟩ := Schema.mem_leaves (List.mem_of_find?_eq_some found)
    have resolved : Schema.resolve? (s.leaves type) (Leaf.dotted (s.names type trail)) =
        some leaf := by
      rw [Schema.resolve?, found, Option.some_or]
    have indices := FieldPath.indices_ofIndices packed
    refine ⟨leaf, path, found, ⟨t', leads'⟩, spelled.symm.trans named, indices, ?_, ?_⟩
    · rw [Schema.mapping, List.mapM_eq_ok_iff]
      simp only [List.forall₂_cons, resolved, packed, List.Forall₂.nil, and_self]
    · intro columns paths compiled
      refine (List.mapM_eq_ok_iff.mp compiled).imp fun other found' ok same => ?_
      subst same
      rw [resolved] at ok
      exact Except.ok.inj (ok.symm.trans packed)

/-- A SELECT of a column with one part quoted, over a join. -/
def quotedSelect : Query :=
  (empty .postgres).applyAll [.appendFrom "employees", .appendSelect ["home.\"city\""],
    .appendJoin .inner "homes home ON true" []]

theorem quotedSelect_reads_city :
    (∃ rest, quotedSelect.render.sql.toList =
      "SELECT \"home\".\"city\" AS \"home.city\" FROM ".toList ++ rest) ∧
      ∃ path, Schema.staff.mapping 0 ["home.city"] = .ok [path] ∧ path.indices = [2, 0] := by
  have narrow : Schema.staff.Narrow := by decide
  have leads : Schema.staff.shapeAt? 0 [2, 0] = some (.scalar (.optional .text)) := rfl
  have dotted : Leaf.dotted (Schema.staff.names 0 [2, 0]) = "home.city" := by decide
  have parts : "home.city".toList.splitOn '.' = ["home".toList, "city".toList] := by decide
  have written : "home.\"city\"".toList.splitOn '.' = ["home".toList, "\"city\"".toList] := by
    decide
  have bare : ∀ part ∈ "home.city".toList.splitOn '.', isBare part = true := by
    rw [parts]
    decide
  have spells : quotedSelect.dialect.quotes.SpellsAll ("home.\"city\"".toList.splitOn '.')
      ("home.city".toList.splitOn '.') := by
    rw [parts, written]
    exact .cons (.inl rfl) (.cons (.inr rfl) .nil)
  have apart : quotedSelect.dialect.quotes.Apart := by decide
  have selected : quotedSelect.columns = [] ++ "home.\"city\"" :: [] := rfl
  obtain ⟨⟨rest, text⟩, leaf, path, found, -, -, indices, compiled, -⟩ :=
    aliases_name_leaves narrow leads (by decide) dotted (by rw [parts]; decide) bare apart rfl
      (List.cons_ne_nil _ _) rfl rfl selected spells (by decide)
  refine ⟨⟨rest, text.trans (congrArg (· ++ rest) ?_)⟩, path, compiled, ?_⟩
  · decide
  · have first : (Schema.staff.leaves 0).find? (fun leaf => leaf.name == "home.city") =
        some ⟨"home.city", [2, 0]⟩ := by decide
    rw [first] at found
    cases found
    exact indices

/-! ## Limits -/

/-- A SELECT whose column has a `*` for the closing quote of its last part. -/
def starredColumn : Query :=
  (empty ⟨⟨'<', '*'⟩, false, false⟩).applyAll
    [.appendFrom "t", .appendSelect ["a.<b*"], .appendJoin .inner "u on true" []]

end Query

/-- A type that leads to itself. -/
def Schema.chain : Schema :=
  [⟨"Link", [⟨"x", .scalar (.required .int64)⟩, ⟨"next", .nested 0 .optional⟩]⟩]

/-- A type with 256 fields, the last of which is a record. -/
def Schema.crowd : Schema :=
  [⟨"Crowd", List.replicate 255 ⟨"x", .scalar (.required .int64)⟩ ++ [⟨"a", .nested 1 .inline⟩]⟩,
    ⟨"Member", [⟨"b", .scalar (.required .int64)⟩]⟩]

/-- A field on the eighth level and one behind index 255 are not found; a column that ends in `*` has
no alias. -/
theorem Query.aliases_limited :
    (Schema.chain.IsScalar 0 [1, 1, 1, 1, 1, 1, 1, 0] ∧
      Leaf.dotted (Schema.chain.names 0 [1, 1, 1, 1, 1, 1, 1, 0]) =
        "next.next.next.next.next.next.next.x" ∧
      Schema.resolve? (Schema.chain.leaves 0) "next.next.next.next.next.next.next.x" = none) ∧
    (Schema.crowd.IsScalar 0 [255, 0] ∧
      Leaf.dotted (Schema.crowd.names 0 [255, 0]) = "a.b" ∧
      Schema.crowd.mapping 0 ["a.b"] = .error (.indexTooLarge 255)) ∧
    (starredColumn.dialect.quotes.Apart ∧
      starredColumn.dialect.quotes.SpellsAll ("a.<b*".toList.splitOn '.')
        ("a.b".toList.splitOn '.') ∧
      starredColumn.render.sql = "SELECT <a*.<b* FROM <t* INNER JOIN u on true;") := by
  refine ⟨⟨⟨_, rfl⟩, by decide, by decide⟩, ⟨⟨_, rfl⟩, by decide, ?_⟩, by decide, ?_, by decide⟩
  · decide +kernel
  · have parts : "a.b".toList.splitOn '.' = ["a".toList, "b".toList] := by decide
    have written : "a.<b*".toList.splitOn '.' = ["a".toList, "<b*".toList] := by decide
    rw [parts, written]
    exact .cons (.inl rfl) (.cons (.inr rfl) .nil)

end QueryBind
