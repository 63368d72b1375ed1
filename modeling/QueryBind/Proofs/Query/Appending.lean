/-
# QueryBind.Proofs.Query.Appending — what modifiers do to a WHERE list

`Mod.extend` gives the WHERE list after a modifier from the list before it, and nothing else of a
query has a part in it (`Mod.conditions_edits`). What stood in the list before is left alone as
long as something of the modifier's own is there to be marked: behind a list that opens every group
it closes, marking the last predicate reaches no further back (`Predicate.markLast_append`). Inside
a group that is always so, since the group's start has been appended. So the modifiers that reach
further back are only these (`Mod.marksEarlier`): an alternative that is not in a group, of a
modifier that appends no predicate. `Mod.predicates_appended` says that all others append the same
predicates to any query.
-/
import Mathlib.Data.List.Induction
import QueryBind.Proofs.Query.Nesting
import QueryBind.Query.Render

namespace QueryBind

set_option autoImplicit false

/-! ## Marks -/

namespace Predicate

/-- Of `closed` groups that are closed behind a list, the list opens one: the mark goes there. -/
theorem markOpening_append {list : List Predicate} {opened closed : Nat}
    (nested : nesting 0 list = some opened) (due : 1 ≤ closed) (fits : closed ≤ opened)
    (outer : List Predicate) :
    markOpening closed (list.reverse ++ outer) = markOpening closed list.reverse ++ outer := by
  induction list using List.reverseRecOn generalizing opened closed with
  | nil =>
      obtain rfl : 0 = opened := by simpa [nesting] using nested
      omega
  | append_singleton list p ih =>
      rw [nesting_append] at nested
      obtain ⟨before, first, last⟩ := Option.bind_eq_some_iff.mp nested
      rw [List.reverse_concat, List.cons_append]
      cases p with
      | leaf test clause args byOr =>
          obtain rfl : before = opened := by simpa [nesting] using last
          simp [markOpening, ih first due fits]
      | groupStart byOr =>
          obtain rfl : before + 1 = opened := by simpa [nesting] using last
          match closed, due with
          | 1, _ => rfl
          | n + 2, _ =>
              have deeper : markOpening (n + 1) (list.reverse ++ outer) =
                  markOpening (n + 1) list.reverse ++ outer := ih first (by omega) (by omega)
              simp [markOpening, deeper]
      | groupEnd =>
          cases before with
          | zero => cases last
          | succ before =>
              obtain rfl : before = opened := by simpa [nesting] using last
              have deeper : markOpening (closed + 1) (list.reverse ++ outer) =
                  markOpening (closed + 1) list.reverse ++ outer := ih first (by omega) (by omega)
              simp [markOpening, deeper]

/-- The list with its last predicate, or the start of its last group, joined by OR. -/
def marked (list : List Predicate) : List Predicate := (markLast list.reverse).reverse

/-- Marking reaches no further back than a list that opens every group it closes. -/
theorem marked_append {list : List Predicate} {opened : Nat}
    (nested : nesting 0 list = some opened) (own : list ≠ []) (outer : List Predicate) :
    marked (outer ++ list) = outer ++ marked list := by
  have reversed : markLast (list.reverse ++ outer.reverse) =
      markLast list.reverse ++ outer.reverse := by
    induction list using List.reverseRecOn with
    | nil => exact absurd rfl own
    | append_singleton list p =>
        rw [List.reverse_concat, List.cons_append]
        cases p with
        | leaf test clause args byOr => rfl
        | groupStart byOr => rfl
        | groupEnd =>
            rw [nesting_append] at nested
            obtain ⟨before, first, last⟩ := Option.bind_eq_some_iff.mp nested
            cases before with
            | zero => cases last
            | succ before =>
                have within : markOpening 1 (list.reverse ++ outer.reverse) =
                    markOpening 1 list.reverse ++ outer.reverse :=
                  markOpening_append first (by omega) (by omega) outer.reverse
                simp [markLast, markOpening, within]
  rw [marked, List.reverse_append, reversed, List.reverse_append, List.reverse_reverse]
  rfl

theorem length_marked (list : List Predicate) : (marked list).length = list.length := by
  have same := congrArg List.length (map_unmarked_markLast list.reverse)
  simpa [marked] using same

theorem markOpening_markOpening (depth : Nat) (list : List Predicate) :
    markOpening depth (markOpening depth list) = markOpening depth list := by
  fun_induction markOpening depth list with
  | case1 => rfl
  | case2 depth rest ih => simp [markOpening, ih]
  | case3 => rfl
  | case4 => rfl
  | case5 depth byOr rest ih => simp [markOpening, ih]
  | case6 depth test clause args byOr rest ih => simp [markOpening, ih]

/-- A predicate that has been marked stays as it is. -/
theorem marked_marked (list : List Predicate) : marked (marked list) = marked list := by
  have again : markLast (markLast list.reverse) = markLast list.reverse := by
    cases list.reverse with
    | nil => rfl
    | cons p rest =>
        cases p with
        | leaf test clause args byOr => rfl
        | groupStart byOr => rfl
        | groupEnd =>
            have stays := markOpening_markOpening 0 (.groupEnd :: rest)
            simpa [markLast, markOpening] using stays
  rw [marked, marked, List.reverse_reverse, again]

end Predicate

open Predicate

/-! ## The list after a modifier -/

namespace Mod

mutual

/-- The WHERE list after a modifier. -/
def extend : Mod → List Predicate → List Predicate
  | .leaf test clause args, list => list ++ [.leaf test clause args false]
  | .either mod, list => marked (mod.extend list)
  | .group mods, list => extendAll mods (list ++ [.groupStart false]) ++ [.groupEnd]
  | .select _, list | .table _, list | .join _ _ _, list | .distinct _, list | .cte _ _, list
  | .groupBy _, list | .orderBy _ _, list | .having _ _, list | .limit _, list | .offset _, list
  | .lock _, list | .comment _, list | .sql _ _, list | .load _, list => list

/-- The WHERE list after modifiers in turn. -/
def extendAll : List Mod → List Predicate → List Predicate
  | [], list => list
  | mod :: rest, list => extendAll rest (mod.extend list)

end

/-- The predicates that a modifier appends. -/
def predicates (m : Mod) : List Predicate := m.extend []

/-- The modifier has a predicate or a group of its own. -/
def appends : Mod → Bool
  | .leaf _ _ _ | .group _ => true
  | .either mod => mod.appends
  | _ => false

/-- The modifier joins by OR what it has not appended. -/
def marksEarlier : Mod → Bool
  | .either mod => !mod.appends
  | _ => false

mutual

theorem conditions_edits : ∀ (m : Mod) (q : Query),
    (q.applyAll m.edits).conditions = m.extend q.conditions
  | .leaf .., _ => rfl
  | .either m, q => by
      rw [edits, Query.applyAll_append, extend, ← conditions_edits m q]
      rfl
  | .group mods, q => by
      have inner := conditions_editsOfAll mods (q.apply .openGroup)
      rw [edits, Query.applyAll_append, extend]
      exact congrArg (· ++ [.groupEnd]) inner
  | .select _, _ | .table _, _ | .join _ _ _, _ | .distinct _, _ | .cte _ _, _ | .groupBy _, _
  | .orderBy _ _, _ | .having _ _, _ | .limit _, _ | .offset _, _ | .lock _, _ | .comment _, _
  | .sql _ _, _ | .load _, _ => rfl

theorem conditions_editsOfAll : ∀ (mods : List Mod) (q : Query),
    (q.applyAll (editsOfAll mods)).conditions = extendAll mods q.conditions
  | [], _ => rfl
  | m :: rest, q => by
      rw [editsOfAll, Query.applyAll_append, conditions_editsOfAll rest, conditions_edits m, extendAll]

end

theorem nesting_extend (m : Mod) {list : List Predicate} {opened : Nat}
    (nested : nesting 0 list = some opened) : nesting 0 (m.extend list) = some opened := by
  have kept := nesting_edits m { Query.empty default with conditions := list } nested
  rwa [conditions_edits] at kept

theorem extend_ne_nil (m : Mod) {list : List Predicate} (own : list ≠ [] ∨ m.appends = true) :
    m.extend list ≠ [] := by
  cases m with
  | leaf test clause args => simp [extend]
  | group mods => simp [extend]
  | either mod =>
      have inner := extend_ne_nil mod own
      rw [← List.length_pos_iff] at inner ⊢
      rwa [extend, length_marked]
  | _ => simpa [extend, appends] using own

/-! ## What stood before -/

mutual

/-- What stands before a list of the modifier's own is left alone. -/
theorem extend_append (outer : List Predicate) : ∀ (m : Mod) {list : List Predicate} {opened : Nat},
    nesting 0 list = some opened → (list ≠ [] ∨ m.marksEarlier = false) →
      m.extend (outer ++ list) = outer ++ m.extend list
  | .leaf test clause args, list, _, _, _ => by simp [extend]
  | .either m, list, opened, nested, own => by
      have grown : list ≠ [] ∨ m.appends = true := by simpa [marksEarlier] using own
      have inner : list ≠ [] ∨ m.marksEarlier = false := by
        refine grown.imp_right fun appended => ?_
        cases m with
        | either m =>
            have deeper : m.appends = true := appended
            simp [marksEarlier, deeper]
        | _ => rfl
      rw [extend, extend_append outer m nested inner,
        marked_append (nesting_extend m nested) (extend_ne_nil m grown), extend]
  | .group mods, list, opened, nested, _ => by
      have start : nesting 0 (list ++ [.groupStart false]) = some (opened + 1) := by
        rw [nesting_append, nested]
        rfl
      have inner := extendAll_append outer mods start (by simp)
      rw [extend, List.append_assoc, inner, extend, List.append_assoc]
  | .select _, _, _, _, _ | .table _, _, _, _, _ | .join _ _ _, _, _, _, _
  | .distinct _, _, _, _, _ | .cte _ _, _, _, _, _ | .groupBy _, _, _, _, _
  | .orderBy _ _, _, _, _, _ | .having _ _, _, _, _, _ | .limit _, _, _, _, _
  | .offset _, _, _, _, _ | .lock _, _, _, _, _ | .comment _, _, _, _, _ | .sql _ _, _, _, _, _
  | .load _, _, _, _, _ => by simp [extend]

theorem extendAll_append (outer : List Predicate) :
    ∀ (mods : List Mod) {list : List Predicate} {opened : Nat},
      nesting 0 list = some opened → list ≠ [] →
        extendAll mods (outer ++ list) = outer ++ extendAll mods list
  | [], _, _, _, _ => rfl
  | m :: rest, list, opened, nested, own => by
      have onward := extendAll_append outer rest (nesting_extend m nested)
        (extend_ne_nil m (.inl own))
      rw [extendAll, extend_append outer m nested (.inl own), onward, extendAll]

end

theorem extend_eq_append {m : Mod} (own : m.marksEarlier = false) (list : List Predicate) :
    m.extend list = list ++ m.predicates := by
  have behind : m.extend (list ++ []) = list ++ m.extend [] := extend_append list m rfl (.inr own)
  rwa [List.append_nil] at behind

/-- A modifier without a predicate of its own marks what is there, or does nothing. -/
theorem extend_of_silent : ∀ {m : Mod}, m.appends = false → ∀ list : List Predicate,
    m.extend list = if m.marksEarlier then marked list else list
  | .either m, silent, list => by
      have inner : m.appends = false := silent
      have before := extend_of_silent inner list
      rw [extend, before, marksEarlier, inner]
      split
      · rw [marked_marked]
        rfl
      · rfl
  | .select _, _, _ | .table _, _, _ | .join _ _ _, _, _ | .distinct _, _, _ | .cte _ _, _, _
  | .groupBy _, _, _ | .orderBy _ _, _, _ | .having _ _, _, _ | .limit _, _, _ | .offset _, _, _
  | .lock _, _, _ | .comment _, _, _ | .sql _ _, _, _ | .load _, _, _ => by
      simp [extend, marksEarlier]

theorem extend_eq_marked {m : Mod} (earlier : m.marksEarlier = true) (list : List Predicate) :
    m.extend list = marked list := by
  have silent : m.appends = false := by
    cases m with
    | either m => simpa [marksEarlier, appends] using earlier
    | _ => cases earlier
  rw [extend_of_silent silent, if_pos earlier]

theorem extendAll_eq_append {mods : List Mod} (own : ∀ m ∈ mods, m.marksEarlier = false)
    (list : List Predicate) : extendAll mods list = list ++ mods.flatMap predicates := by
  induction mods generalizing list with
  | nil => simp [extendAll]
  | cons m rest ih =>
      obtain ⟨here, later⟩ := List.forall_mem_cons.mp own
      rw [extendAll, extend_eq_append here, ih later, List.flatMap_cons, List.append_assoc]

/-- **Modifiers append.** Unless it marks an earlier predicate, a modifier leaves the WHERE list it
is applied to as it was, with its own predicates behind, which are the same for every query; and so
do modifiers in turn. A modifier that marks an earlier predicate appends nothing, and does to the
list what marking its last predicate does. -/
theorem predicates_appended (m : Mod) :
    ((∃ added, ∀ q : Query, (q.applyAll m.edits).conditions = q.conditions ++ added) ↔
        m.marksEarlier = false) ∧
      (m.marksEarlier = false →
        ∀ q : Query, (q.applyAll m.edits).conditions = q.conditions ++ m.predicates) ∧
      (m.marksEarlier = true →
        ∀ q : Query, (q.applyAll m.edits).conditions = (q.apply .orLast).conditions) ∧
      ∀ mods : List Mod, (∀ m ∈ mods, m.marksEarlier = false) →
        ∀ q : Query, (q.modify mods).conditions = q.conditions ++ mods.flatMap predicates := by
  have appended (own : m.marksEarlier = false) (q : Query) :
      (q.applyAll m.edits).conditions = q.conditions ++ m.predicates := by
    rw [conditions_edits, extend_eq_append own]
  have marks (earlier : m.marksEarlier = true) (q : Query) :
      (q.applyAll m.edits).conditions = marked q.conditions := by
    rw [conditions_edits, extend_eq_marked earlier]
  refine ⟨⟨?_, fun own => ⟨m.predicates, appended own⟩⟩, appended, marks, ?_⟩
  · rintro ⟨added, always⟩
    by_contra earlier
    rw [Bool.not_eq_false] at earlier
    -- one predicate joined by AND comes out joined by OR
    have single := always { Query.empty default with conditions := [.leaf .plain "" [] false] }
    rw [marks earlier] at single
    simp [marked, markLast] at single
  · intro mods own q
    exact (conditions_editsOfAll mods q).trans (extendAll_eq_append own q.conditions)

/-- An alternative around a group with modifiers that have no predicate, one of which is marked. -/
def wideAlternative : Mod :=
  .either (.group [.load "Author", .either (.limit 5), .any .plain "a = ?" [.int 1],
    .either (.group [])])

theorem wideAlternative_appends :
    wideAlternative.marksEarlier = false ∧
      ∀ q : Query, (q.applyAll wideAlternative.edits).conditions = q.conditions ++
        [.groupStart true, .leaf .plain "a = ?" [.int 1] true, .groupStart true, .groupEnd,
          .groupEnd] := by
  have own : wideAlternative.marksEarlier = false := rfl
  exact ⟨own, (predicates_appended wideAlternative).2.1 own⟩

/-- A query with two predicates joined by AND. -/
def pairedQuery : Query :=
  (Query.empty .postgres).applyAll
    [.appendFrom "t", .appendLeaf .plain "a = ?" [.int 1], .appendLeaf .plain "b = ?" [.int 2]]

/-- An alternative of a limit turns the AND before an earlier predicate into OR. -/
theorem pairedQuery_reversed :
    let limited := pairedQuery.applyAll (Mod.either (.limit 5)).edits
    pairedQuery.conditions =
        [.leaf .plain "a = ?" [.int 1] false, .leaf .plain "b = ?" [.int 2] false] ∧
      limited.conditions =
        [.leaf .plain "a = ?" [.int 1] false, .leaf .plain "b = ?" [.int 2] true] ∧
      ¬ pairedQuery.conditions <+: limited.conditions ∧
      limited.render.sql = "SELECT * FROM \"t\" WHERE (a = $1) OR (b = $2) LIMIT 5;" := by
  refine ⟨rfl, rfl, ?_, by decide⟩
  rintro ⟨added, same⟩
  have second := (List.cons.inj (List.cons.inj same).2).1
  cases second

end Mod

end QueryBind
