/-
# QueryBind.Proofs.Query.Nesting — groups that open and close in turn

`Predicate.nesting` counts the groups that are open after a WHERE list; a list is `WellNested` when
it closes every group it opens and no other. Marking a predicate as an alternative changes
no group (`nesting_markLast`), so every modifier, however deep its own groups, leaves as many
groups open as there were before it (`nesting_edits`), and a query made of modifiers alone has a
well-nested WHERE list (`wellNested_modify`).
-/
import QueryBind.Query.Mod

namespace QueryBind

set_option autoImplicit false

namespace Predicate

/-! ## Open groups -/

/-- How many groups are open after the predicates when `depth` are open before them; none when they
close one that is not open. -/
def nesting : (depth : Nat) → List Predicate → Option Nat
  | depth, [] => some depth
  | depth, .leaf .. :: rest => nesting depth rest
  | depth, .groupStart _ :: rest => nesting (depth + 1) rest
  | 0, .groupEnd :: _ => none
  | depth + 1, .groupEnd :: rest => nesting depth rest

/-- Every group that is opened is closed, and no other. -/
def WellNested (predicates : List Predicate) : Prop := nesting 0 predicates = some 0

instance (predicates : List Predicate) : Decidable (WellNested predicates) :=
  inferInstanceAs (Decidable (_ = _))

theorem nesting_append (depth : Nat) (a b : List Predicate) :
    nesting depth (a ++ b) = (nesting depth a).bind fun opened => nesting opened b := by
  fun_induction nesting depth a with
  | case1 => rfl
  | case2 depth _ _ _ _ rest ih => exact ih
  | case3 depth _ rest ih => exact ih
  | case4 => rfl
  | case5 depth rest ih => exact ih

/-! ## Marks -/

/-- The predicate joined by AND. -/
def unmarked : Predicate → Predicate
  | .leaf test clause args _ => .leaf test clause args false
  | .groupStart _ => .groupStart false
  | .groupEnd => .groupEnd

theorem nesting_map_unmarked (depth : Nat) (predicates : List Predicate) :
    nesting depth (predicates.map unmarked) = nesting depth predicates := by
  fun_induction nesting depth predicates with
  | case1 => rfl
  | case2 depth _ _ _ _ rest ih => exact ih
  | case3 depth _ rest ih => exact ih
  | case4 => rfl
  | case5 depth rest ih => exact ih

theorem map_unmarked_markOpening (depth : Nat) (predicates : List Predicate) :
    (markOpening depth predicates).map unmarked = predicates.map unmarked := by
  fun_induction markOpening depth predicates with
  | case1 => rfl
  | case2 _ rest ih => rw [List.map_cons, ih, List.map_cons]
  | case3 => rfl
  | case4 => rfl
  | case5 _ _ rest ih => rw [List.map_cons, ih, List.map_cons]
  | case6 _ _ _ _ _ rest ih => rw [List.map_cons, ih, List.map_cons]

theorem map_unmarked_markLast (predicates : List Predicate) :
    (markLast predicates).map unmarked = predicates.map unmarked := by
  unfold markLast
  split
  · exact map_unmarked_markOpening _ _
  all_goals rfl

/-- Marking the last predicate, or the start of the last group, opens and closes no group. -/
theorem nesting_markLast (depth : Nat) (predicates : List Predicate) :
    nesting depth (markLast predicates.reverse).reverse = nesting depth predicates := by
  rw [← nesting_map_unmarked, List.map_reverse, map_unmarked_markLast, List.map_reverse,
    List.reverse_reverse, nesting_map_unmarked]

end Predicate

/-! ## Modifiers -/

open Predicate

theorem Query.applyAll_append (q : Query) (a b : List Query.Edit) :
    q.applyAll (a ++ b) = (q.applyAll a).applyAll b :=
  List.foldl_append

namespace Mod

mutual

theorem nesting_edits {opened : Nat} : ∀ (m : Mod) (q : Query),
    nesting 0 q.conditions = some opened →
      nesting 0 (q.applyAll m.edits).conditions = some opened
  | .leaf test clause args, q, before => by
      show nesting 0 (q.conditions ++ [.leaf test clause args false]) = some opened
      rw [nesting_append, before]
      rfl
  | .either m, q, before => by
      rw [edits, Query.applyAll_append]
      exact (nesting_markLast 0 _).trans (nesting_edits m q before)
  | .group mods, q, before => by
      have start : nesting 0 (q.apply .openGroup).conditions = some (opened + 1) := by
        show nesting 0 (q.conditions ++ [.groupStart false]) = some (opened + 1)
        rw [nesting_append, before]
        rfl
      have inner := nesting_editsOfAll mods (q.apply .openGroup) start
      rw [edits, Query.applyAll_append]
      show nesting 0 (((q.apply .openGroup).applyAll (editsOfAll mods)).conditions ++ [.groupEnd]) =
        some opened
      rw [nesting_append, inner]
      rfl
  | .select _, _, before | .table _, _, before | .join _ _ _, _, before | .distinct _, _, before
  | .cte _ _, _, before | .groupBy _, _, before | .orderBy _ _, _, before | .having _ _, _, before
  | .limit _, _, before | .offset _, _, before | .lock _, _, before | .comment _, _, before
  | .sql _ _, _, before | .load _, _, before => before

theorem nesting_editsOfAll {opened : Nat} : ∀ (mods : List Mod) (q : Query),
    nesting 0 q.conditions = some opened →
      nesting 0 (q.applyAll (editsOfAll mods)).conditions = some opened
  | [], _, before => before
  | m :: rest, q, before => by
      rw [editsOfAll, Query.applyAll_append]
      exact nesting_editsOfAll rest _ (nesting_edits m q before)

end

end Mod

/-- Modifiers keep a WHERE list well nested. -/
theorem Query.wellNested_modify {q : Query} (nested : WellNested q.conditions) (mods : List Mod) :
    WellNested (q.modify mods).conditions :=
  Mod.nesting_editsOfAll mods q nested

end QueryBind
