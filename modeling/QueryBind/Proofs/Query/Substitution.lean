/-
# QueryBind.Proofs.Query.Substitution — other argument values, the same text

`mapArgs f` replaces every argument that a query holds by its image under `f`. Rendering commutes
with it piece by piece: a fragment keeps its symbols, a section its kind, a layout its sections, so a
statement keeps its text (`render_mapArgs`). What the text may depend on is therefore the query's
`skeleton`, in which every argument is NULL: the texts of the clauses and how many arguments each
has. The main statement, `text_independent_of_values`, is the guarantee that no value, whatever
it holds, becomes part of a statement's text.
-/
import QueryBind.Proofs.Query.Numbering

namespace QueryBind

set_option autoImplicit false

variable (f : Value → Value)

/-! ## Fragments -/

/-- The statement with every argument replaced by its image. -/
def Rendered.mapArgs (r : Rendered) : Rendered := ⟨r.sql, r.args.map f⟩

namespace Fragment

/-- The fragment with every argument replaced by its image; its places stay. -/
def mapArgs (a : Fragment) : Fragment := ⟨a.symbols, a.args.map f⟩

@[simp] theorem mapArgs_ofText (s : List Char) : (ofText s).mapArgs f = ofText s := rfl

@[simp] theorem mapArgs_ofValue (v : Value) : (ofValue v).mapArgs f = ofValue (f v) := rfl

@[simp] theorem mapArgs_ofClause (clause : List Char) (args : List Value) :
    (ofClause clause args).mapArgs f = ofClause clause (args.map f) := rfl

/-- The second fragment is shifted past as many places, for the first one has as many arguments. -/
@[simp] theorem mapArgs_append (a b : Fragment) :
    (a ++ b).mapArgs f = a.mapArgs f ++ b.mapArgs f := by
  show Fragment.mk _ _ = Fragment.mk _ _
  simp [mapArgs]

@[simp] theorem mapArgs_concat (fragments : List Fragment) :
    (concat fragments).mapArgs f = concat (fragments.map (mapArgs f)) := by
  induction fragments with
  | nil => rfl
  | cons a rest ih =>
      show (a ++ concat rest).mapArgs f = a.mapArgs f ++ concat (rest.map (mapArgs f))
      rw [mapArgs_append, ih]

@[simp] theorem mapArgs_joinWith (separator : List Char) (fragments : List Fragment) :
    (joinWith separator fragments).mapArgs f = joinWith separator (fragments.map (mapArgs f)) := by
  fun_induction joinWith separator fragments with
  | case1 => rfl
  | case2 a => rfl
  | case3 a rest several ih =>
      obtain ⟨b, others, rfl⟩ := List.exists_cons_of_ne_nil several
      simp only [mapArgs_append, mapArgs_ofText, ih]
      rfl

theorem render_mapArgs (numbered : Bool) (a : Fragment) :
    (a.mapArgs f).render numbered = (a.render numbered).mapArgs f := rfl

end Fragment

/-! ## Clauses and predicates -/

/-- The clause with every argument replaced by its image. -/
def Clause.mapArgs (c : Clause) : Clause := ⟨c.clause, c.args.map f⟩

/-- The join with every argument replaced by its image. -/
def Join.mapArgs (j : Join) : Join := ⟨j.kind, j.clause, j.args.map f⟩

/-- The columns with every value replaced by its image. -/
def Assignments.mapArgs (columns : Assignments) : Assignments :=
  columns.map fun column => (column.1, f column.2)

theorem Fragment.mapArgs_ofClauses (separator : List Char) (clauses : List Clause) :
    (ofClauses separator clauses).mapArgs f =
      ofClauses separator (clauses.map (Clause.mapArgs f)) := by
  simp [ofClauses, Clause.mapArgs, Function.comp_def, List.map_flatMap, List.flatMap_map]

namespace Predicate

/-- The predicate with every argument replaced by its image. -/
def mapArgs : Predicate → Predicate
  | .leaf test clause args byOr => .leaf test clause (args.map f) byOr
  | .groupStart byOr => .groupStart byOr
  | .groupEnd => .groupEnd

@[simp] theorem isGroupEdge_mapArgs (p : Predicate) :
    (p.mapArgs f).isGroupEdge = p.isGroupEdge := by
  cases p <;> rfl

/-- A leaf looks at its arguments for their number alone: whether there are any, and how many
places the list after IN takes. -/
theorem leafFragment_mapArgs (enclose : Bool) (test : Test) (clause : String)
    (args : List Value) :
    leafFragment enclose test clause (args.map f) =
      (leafFragment enclose test clause args).mapArgs f := by
  have enclosed (body : Fragment) :
      (if enclose then Fragment.ofText ['('] ++ body.mapArgs f ++ .ofText [')']
        else body.mapArgs f) =
        (if enclose then Fragment.ofText ['('] ++ body ++ .ofText [')'] else body).mapArgs f := by
    split <;> simp
  unfold leafFragment
  cases test with
  | plain => exact enclosed (.ofClause clause.toList args)
  | among | notAmong =>
      cases args with
      | nil => rfl
      | cons v rest =>
          simp only [List.map_cons, List.length_cons, List.length_map]
          exact enclosed ⟨_, v :: rest⟩

theorem fragmentFrom_mapArgs (enclose joined : Bool) (predicates : List Predicate) :
    fragmentFrom enclose joined (predicates.map (mapArgs f)) =
      (fragmentFrom enclose joined predicates).mapArgs f := by
  fun_induction fragmentFrom enclose joined predicates with
  | case1 => rfl
  | case2 _ rest ih => simp [mapArgs, fragmentFrom, ih]
  | case3 _ byOr rest ih => simp [mapArgs, fragmentFrom, ih]
  | case4 _ test clause args byOr rest ih =>
      simp [mapArgs, fragmentFrom, ih, leafFragment_mapArgs]

theorem listFragment_mapArgs (predicates : List Predicate) :
    listFragment (predicates.map (mapArgs f)) = (listFragment predicates).mapArgs f := by
  rw [listFragment, fragmentFrom_mapArgs, listFragment, List.any_map]
  congr 4
  exact funext (isGroupEdge_mapArgs f)

end Predicate

/-! ## Sections -/

namespace Query

namespace Section

/-- The section with every argument replaced by its image. -/
def mapArgs : Section → Section
  | .ctes clauses => .ctes (clauses.map (Clause.mapArgs f))
  | .joins list => .joins (list.map (Join.mapArgs f))
  | .assignments columns => .assignments (columns.mapArgs f)
  | .conditions predicates => .conditions (predicates.map (Predicate.mapArgs f))
  | .having clauses => .having (clauses.map (Clause.mapArgs f))
  | .ordering clauses => .ordering (clauses.map (Clause.mapArgs f))
  | s => s

theorem fragment_mapArgs (d : Dialect) (s : Section) :
    (s.mapArgs f).fragment d = (s.fragment d).mapArgs f := by
  cases s with
  | ctes clauses | having clauses | ordering clauses =>
      simp [mapArgs, fragment, Fragment.mapArgs_ofClauses]
  | joins list =>
      simp [mapArgs, fragment, joinText, Join.mapArgs, List.map_flatMap, List.flatMap_map]
  | assignments columns =>
      simp [mapArgs, fragment, Assignments.mapArgs, assignment, Function.comp_def]
  | conditions predicates => simp [mapArgs, fragment, Predicate.listFragment_mapArgs]
  | _ => rfl

end Section

/-! ## Statements -/

end Query

/-- The statement with every argument replaced by its image. -/
def Statement.mapArgs : Statement → Statement
  | .update columns => .update (columns.mapArgs f)
  | .raw sql args => .raw sql (args.map f)
  | s => s

namespace Query

/-- The query with every argument it holds replaced by its image. -/
def mapArgs (q : Query) : Query :=
  { q with
    statement := q.statement.mapArgs f
    joins := q.joins.map (Join.mapArgs f)
    conditions := q.conditions.map (Predicate.mapArgs f)
    ordering := q.ordering.map (Clause.mapArgs f)
    having := q.having.map (Clause.mapArgs f)
    ctes := q.ctes.map (Clause.mapArgs f) }

theorem unlessEmpty_mapArgs {α : Type} (g : α → α) (list : List α) (make : List α → Section)
    (images : (make list).mapArgs f = make (list.map g)) :
    unlessEmpty (list.map g) make = (unlessEmpty list make).map (Section.mapArgs f) := by
  cases list with
  | nil => rfl
  | cons x rest => exact congrArg (fun s => [s]) images.symm

theorem preamble_mapArgs (q : Query) :
    (q.mapArgs f).preamble = q.preamble.map (Section.mapArgs f) := by
  unfold preamble
  rw [List.map_append, ← unlessEmpty_mapArgs f (Clause.mapArgs f) q.ctes .ctes rfl]
  show (q.comment.map Section.comment).toList ++ _ = _
  cases q.comment <;> rfl

/-- The row window holds no argument; of the order of rows it asks only whether there is one. -/
theorem window_mapArgs (q : Query) :
    (q.mapArgs f).window = q.window.map (Section.mapArgs f) := by
  have ordered : (q.mapArgs f).ordering.isEmpty = q.ordering.isEmpty := List.isEmpty_map
  have same : (q.mapArgs f).window = q.window := by
    unfold window
    rw [ordered]
    rfl
  rw [same]
  unfold window
  cases q.limit <;> split <;> split <;> try split
  all_goals rfl

theorem tail_mapArgs (q : Query) : (q.mapArgs f).tail = q.tail.map (Section.mapArgs f) := by
  have lock : (q.lock.map Section.lock).toList.map (Section.mapArgs f) =
      (q.lock.map Section.lock).toList := by cases q.lock <;> rfl
  have grouping : (unlessEmpty q.grouping .grouping).map (Section.mapArgs f) =
      unlessEmpty q.grouping .grouping := by cases q.grouping <;> rfl
  simp only [tail, modifiers, List.map_append, lock, grouping, ← window_mapArgs,
    ← unlessEmpty_mapArgs f (Predicate.mapArgs f) q.conditions .conditions rfl,
    ← unlessEmpty_mapArgs f (Clause.mapArgs f) q.having .having rfl,
    ← unlessEmpty_mapArgs f (Clause.mapArgs f) q.ordering .ordering rfl]
  rfl

theorem selectLayout_mapArgs (q : Query) :
    (q.mapArgs f).selectLayout = q.selectLayout.map (Section.mapArgs f) := by
  have head : q.head.map (Section.mapArgs f) = q.head := by
    unfold head
    split
    · cases q.limit <;> rfl
    · rfl
  have joined : (q.mapArgs f).joins.isEmpty = q.joins.isEmpty := List.isEmpty_map
  have projection : (q.mapArgs f).projection = q.projection := by
    unfold projection selection
    rw [joined]
    rfl
  simp only [selectLayout, List.map_append, preamble_mapArgs, tail_mapArgs, projection, head,
    ← unlessEmpty_mapArgs f (Join.mapArgs f) q.joins .joins rfl]
  rfl

theorem updateLayout_mapArgs (q : Query) (columns : Assignments) :
    (q.mapArgs f).updateLayout (columns.mapArgs f) =
      (q.updateLayout columns).map (Section.mapArgs f) := by
  simp only [updateLayout, List.map_append, preamble_mapArgs, tail_mapArgs]
  rfl

theorem deleteLayout_mapArgs (q : Query) :
    (q.mapArgs f).deleteLayout = q.deleteLayout.map (Section.mapArgs f) := by
  simp only [deleteLayout, List.map_append, preamble_mapArgs, tail_mapArgs]
  rfl

theorem renderLayout_mapArgs (d : Dialect) (sections : List Section) :
    renderLayout d (sections.map (Section.mapArgs f)) = (renderLayout d sections).mapArgs f := by
  have images : (sections.map (Section.mapArgs f)).map (Section.fragment d) =
      (sections.map (Section.fragment d)).map (Fragment.mapArgs f) := by
    simp [Section.fragment_mapArgs]
  rw [renderLayout, renderLayout, images, ← Fragment.render_mapArgs, Fragment.mapArgs_append,
    Fragment.mapArgs_concat, Fragment.mapArgs_ofText]

/-- A query with other arguments is the same text with other arguments. -/
theorem render_mapArgs (q : Query) : (q.mapArgs f).render = q.render.mapArgs f := by
  have kind : (q.mapArgs f).statement = q.statement.mapArgs f := rfl
  unfold render
  cases statement : q.statement with
  | raw sql args =>
      rw [kind, statement]
      rfl
  | delete =>
      rw [kind, statement]
      simp only [Statement.mapArgs, deleteLayout_mapArgs]
      exact renderLayout_mapArgs f q.dialect _
  | select =>
      rw [kind, statement]
      simp only [Statement.mapArgs, selectLayout_mapArgs]
      exact renderLayout_mapArgs f q.dialect _
  | update columns =>
      rw [kind, statement]
      cases columns with
      | nil =>
          simp only [Statement.mapArgs, Assignments.mapArgs, List.map_nil, selectLayout_mapArgs]
          exact renderLayout_mapArgs f q.dialect _
      | cons column columns =>
          refine Eq.trans ?_ (renderLayout_mapArgs f q.dialect _)
          rw [← updateLayout_mapArgs]
          rfl

/-- The query with NULL for every argument: the texts of its clauses, and how many arguments each
of them has. -/
def skeleton (q : Query) : Query := q.mapArgs fun _ => .null

/-- **A statement's text does not depend on its argument values.** Of a query of any kind:

* replacing every argument it holds by an image leaves the text, and replaces every argument of the
  statement by its image, one by one;
* a query that differs from it in nothing but argument values has the same text, and as many
  arguments. -/
theorem text_independent_of_values (q : Query) :
    (∀ f, (q.mapArgs f).render.sql = q.render.sql ∧
      (q.mapArgs f).render.args = q.render.args.map f) ∧
      ∀ q' : Query, q.skeleton = q'.skeleton →
        q.render.sql = q'.render.sql ∧ q.render.args.length = q'.render.args.length := by
  refine ⟨fun f => by rw [render_mapArgs]; exact ⟨rfl, rfl⟩, fun q' alike => ?_⟩
  have same : q.render.mapArgs (fun _ => .null) = q'.render.mapArgs fun _ => .null := by
    rw [← render_mapArgs, ← render_mapArgs]
    exact congrArg render alike
  obtain ⟨text, args⟩ := Rendered.mk.inj same
  exact ⟨text, by simpa using congrArg List.length args⟩

/-- An UPDATE of a name, for one of some rows. -/
def renamed (name note : Value) (ids : List Value) : Query :=
  (empty .postgres).applyAll
    [.appendFrom "users", .setUpdate [("name", name)], .appendLeaf .among "id IN ?" ids,
      .appendLeaf .plain "note = ?" [note]]

/-- A name that looks like SQL is an argument like any other. -/
theorem renamed_text :
    let plain := renamed (.text "Ann") .null [.int 1, .int 2]
    let hostile := renamed (.text "'; DROP TABLE users; --") (.text "$1") [.null, .text "?"]
    plain.skeleton = hostile.skeleton ∧ plain.render.sql = hostile.render.sql ∧
      plain.render.args.length = hostile.render.args.length :=
  have alike : (renamed (.text "Ann") .null [.int 1, .int 2]).skeleton =
      (renamed (.text "'; DROP TABLE users; --") (.text "$1") [.null, .text "?"]).skeleton := rfl
  ⟨alike, (text_independent_of_values _).2 _ alike⟩

end Query

end QueryBind
