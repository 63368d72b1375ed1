/-
# QueryBind.Query.Memo — a query that remembers its statement

`Memo.build` renders at most once between two edits that can change the statement. The edits
that keep the remembered statement are those that the renderer does not read: load paths, the
bind mode, and the mark of a last predicate where there is none.
-/
import QueryBind.Query.Mod
import QueryBind.Query.Render

namespace QueryBind

set_option autoImplicit false

structure Query.Memo where
  query : Query
  built : Option Rendered

namespace Query

/-- Whether an edit makes the query forget its statement. -/
def Edit.forgets (q : Query) : Edit → Bool
  | .setLoads _ => false
  | .appendLoad _ => false
  | .setBindMode _ => false
  | .orLast => !q.conditions.isEmpty
  | _ => true

namespace Memo

def ofQuery (query : Query) : Memo := ⟨query, none⟩

def apply (m : Memo) (e : Edit) : Memo :=
  ⟨m.query.apply e, if e.forgets m.query then none else m.built⟩

def applyAll (m : Memo) (edits : List Edit) : Memo := edits.foldl apply m

/-- The statement, and the memo that remembers it. -/
def build (m : Memo) : Rendered × Memo :=
  match m.built with
  | some rendered => (rendered, m)
  | none => (m.query.render, ⟨m.query, some m.query.render⟩)

/-- A copy of the query, which remembers nothing. -/
def clone (m : Memo) : Memo := ofQuery m.query

/-- The remembered statement, if any, is the query's. -/
def Fresh (m : Memo) : Prop := ∀ rendered, m.built = some rendered → rendered = m.query.render

end Memo

end Query

end QueryBind
