/-
# QueryBind.Proofs.Query.Layout — built statements and reachable queries

A query that is not raw SQL renders by its `layout` (`render_of_isBuilt`). A query is `Reachable`
when edits lead to it from an empty one; of such a query the columns that an UPDATE sets are in
strictly ascending order (`Reachable.ascending`).
-/
import Mathlib.Data.String.Basic
import QueryBind.Query.Edit
import QueryBind.Query.Render

namespace QueryBind

set_option autoImplicit false

/-! ## Layouts -/

namespace Query

/-- The statement is put together from clauses; it is not raw SQL. -/
def IsBuilt (q : Query) : Prop := ∀ sql args, q.statement ≠ .raw sql args

/-- The sections of a built statement. -/
def layout (q : Query) : List Section :=
  match q.statement with
  | .raw _ _ => []
  | .delete => q.deleteLayout
  | .update (column :: columns) => q.updateLayout (column :: columns)
  | .update [] | .select => q.selectLayout

theorem render_of_isBuilt {q : Query} (built : q.IsBuilt) :
    q.render = renderLayout q.dialect q.layout := by
  unfold render layout
  cases kind : q.statement with
  | raw sql args => exact absurd kind (built sql args)
  | update columns => cases columns <;> rfl
  | select => rfl
  | delete => rfl

theorem forall_mem_unlessEmpty {α : Type} {P : Section → Prop} {list : List α}
    {make : List α → Section} (holds : P (make list)) : ∀ s ∈ unlessEmpty list make, P s := by
  unfold unlessEmpty
  split
  · simp
  · simpa using holds

theorem forall_mem_option {α : Type} {P : Section → Prop} {option : Option α} {make : α → Section}
    (holds : ∀ x ∈ option, P (make x)) : ∀ s ∈ (option.map make).toList, P s := by
  cases option with
  | none => simp
  | some x => simpa using holds x rfl

theorem flatMap_unlessEmpty {α β : Type} (list : List α) (make : List α → Section)
    (f : Section → List β) (none : f (make []) = []) :
    (unlessEmpty list make).flatMap f = f (make list) := by
  cases list with
  | nil => exact none.symm
  | cons x rest => simp [unlessEmpty]

end Query

/-! ## Assignments -/

namespace Assignments

/-- The columns are in strictly ascending order, so none is set twice. -/
def Ascending (columns : Assignments) : Prop := columns.Pairwise fun a b => a.1 < b.1

/-- After a column was put there are its value and the other columns as before. -/
theorem mem_put {column : String} {value : Value} {columns : Assignments}
    (ascending : columns.Ascending) {x : String × Value} :
    x ∈ put column value columns ↔ x = (column, value) ∨ x ∈ columns ∧ x.1 ≠ column := by
  fun_induction put column value columns with
  | case1 => simp
  | case2 c v rest before =>
      have above : ∀ y ∈ (c, v) :: rest, y.1 ≠ column := by
        refine List.forall_mem_cons.mpr ⟨ne_of_gt before, fun y member => ?_⟩
        exact ne_of_gt (before.trans (List.rel_of_pairwise_cons ascending member))
      rw [List.mem_cons]
      exact or_congr_right (iff_self_and.mpr (above x))
  | case3 v rest _ =>
      have above : ∀ y ∈ rest, y.1 ≠ column := fun y member =>
        ne_of_gt (List.rel_of_pairwise_cons ascending member)
      rw [List.mem_cons, List.mem_cons]
      refine or_congr_right ⟨fun member => ⟨.inr member, above x member⟩, ?_⟩
      rintro ⟨rfl | member, other⟩
      · exact absurd rfl other
      · exact member
  | case4 c v rest _ other ih =>
      rw [List.mem_cons, List.mem_cons, ih (List.Pairwise.of_cons ascending), or_left_comm]
      refine or_congr_right ?_
      rw [or_and_right]
      refine or_congr_left (iff_self_and.mpr ?_)
      rintro rfl
      exact Ne.symm other

theorem put_ascending (column : String) (value : Value) {columns : Assignments}
    (ascending : columns.Ascending) : (put column value columns).Ascending := by
  induction columns with
  | nil => exact List.pairwise_singleton _ _
  | cons c rest ih =>
      obtain ⟨below, restAscending⟩ := List.pairwise_cons.1 ascending
      simp only [put]
      split
      · rename_i before
        refine List.pairwise_cons.2 ⟨fun x member => ?_, ascending⟩
        rcases List.mem_cons.1 member with rfl | member
        · exact before
        · exact before.trans (below x member)
      · rename_i notBefore
        split
        · rename_i same
          exact List.pairwise_cons.2 ⟨fun x member => same ▸ below x member, restAscending⟩
        · rename_i different
          refine List.pairwise_cons.2 ⟨fun x member => ?_, ih restAscending⟩
          rcases (mem_put restAscending).mp member with rfl | ⟨member, -⟩
          · exact lt_of_le_of_ne (not_lt.1 notBefore) (Ne.symm different)
          · exact below x member

theorem putAll_ascending (given : List (String × Value)) {columns : Assignments}
    (ascending : columns.Ascending) : (putAll given columns).Ascending := by
  induction given generalizing columns with
  | nil => exact ascending
  | cons c rest ih => exact ih (put_ascending c.1 c.2 ascending)

end Assignments

/-! ## Reachable queries -/

namespace Query

/-- Edits lead to the query from an empty one. -/
def Reachable (q : Query) : Prop := ∃ dialect edits, q = (empty dialect).applyAll edits

/-- The columns that an UPDATE sets are in ascending order. -/
def SetsAscending (q : Query) : Prop :=
  ∀ columns, q.statement = .update columns → columns.Ascending

theorem apply_setsAscending {q : Query} (ascending : q.SetsAscending) (e : Edit) :
    (q.apply e).SetsAscending := by
  cases e with
  | setSql sql args => exact fun _ same => by simp [apply] at same
  | setArgs args =>
      intro columns same
      simp only [apply, Statement.withArgs] at same
      split at same
      · cases same
      · exact ascending columns same
  | setDelete =>
      intro columns same
      simp only [apply, Statement.toDelete] at same
      split at same <;> cases same
  | setUpdate given =>
      intro columns same
      simp only [apply, Statement.toUpdate] at same
      split at same
      · cases same
        exact Assignments.putAll_ascending given List.Pairwise.nil
      · rename_i earlier kind
        cases same
        exact Assignments.putAll_ascending given (ascending earlier kind)
      · exact ascending columns same
  | _ => exact ascending

theorem applyAll_setsAscending {q : Query} (ascending : q.SetsAscending) (edits : List Edit) :
    (q.applyAll edits).SetsAscending := by
  induction edits generalizing q with
  | nil => exact ascending
  | cons e rest ih => exact ih (apply_setsAscending ascending e)

theorem Reachable.ascending {q : Query} (reachable : q.Reachable) : q.SetsAscending := by
  obtain ⟨dialect, edits, rfl⟩ := reachable
  exact applyAll_setsAscending (fun _ same => by simp [empty] at same) edits

end Query

end QueryBind
