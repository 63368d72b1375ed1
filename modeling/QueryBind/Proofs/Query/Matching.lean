/-
# QueryBind.Proofs.Query.Matching — the group start that an alternative marks

Joining the last predicate by OR marks the predicate itself, or, behind the end of a group, the
start that this end matches. It is looked for backwards with a counter of the groups that are closed
and not yet opened again. Nothing is known of the list: groups may be left open, or closed without a
start.

* A group is `Due` over predicates when none of them, on the way back, opens as many groups as are
  closed by then. Over such predicates the scan changes nothing, and counts (`markOpening_of_due`).
* So it is over the whole list, or up to a start that leaves none due (`due_or_split`): that one is
  marked. The counter is above zero until then, and is never taken below (`markOpening?_eq`).
* Read from the front, the start is at the greatest place from which on the list is `Balanced`
  (`isGreatest_balanced`), and where none is due there is no such place (`not_balanced_of_due`).
-/
import Mathlib.Order.Bounds.Basic
import QueryBind.Proofs.Query.Appending
import QueryBind.Proofs.Query.Freshness

namespace QueryBind

set_option autoImplicit false

namespace Predicate

/-- The predicate joined by OR; the end of a group joins nothing. -/
def alternative : Predicate → Predicate
  | .leaf test clause args _ => .leaf test clause args true
  | .groupStart _ => .groupStart true
  | .groupEnd => .groupEnd

def opens : Predicate → Bool
  | .groupStart _ => true
  | _ => false

def closes : Predicate → Bool
  | .groupEnd => true
  | _ => false

/-- As many groups are opened as are closed. -/
def Balanced (list : List Predicate) : Prop := list.countP opens = list.countP closes

instance (list : List Predicate) : Decidable (Balanced list) := inferInstanceAs (Decidable (_ = _))

/-- `markOpening` with a counter that cannot be taken below zero: there is no result then. -/
def markOpening? : (depth : Nat) → List Predicate → Option (List Predicate)
  | _, [] => some []
  | depth, .groupEnd :: rest => (markOpening? (depth + 1) rest).map (.groupEnd :: ·)
  | depth, .groupStart byOr :: rest =>
      if depth = 0 then none
      else if depth - 1 = 0 then some (.groupStart true :: rest)
      else (markOpening? (depth - 1) rest).map (.groupStart byOr :: ·)
  | depth, .leaf test clause args byOr :: rest =>
      (markOpening? depth rest).map (.leaf test clause args byOr :: ·)

/-! ## The counter -/

/-- With `depth` groups closed before the predicates, there is one still to be opened at each of
them and after the last. -/
def Due (depth : Nat) (list : List Predicate) : Prop :=
  ∀ piece, piece <+: list → piece.countP opens < depth + piece.countP closes

theorem due_nil {depth : Nat} : Due depth [] ↔ 0 < depth := by
  simp [Due]

theorem due_concat {depth : Nat} {list : List Predicate} {p : Predicate} :
    Due depth (list ++ [p]) ↔ Due depth list ∧
      (list ++ [p]).countP opens < depth + (list ++ [p]).countP closes := by
  simp only [Due, List.prefix_concat_iff, forall_eq_or_imp]
  exact and_comm

/-- The groups that are still to be opened after the predicates. -/
theorem Due.pending {depth : Nat} {list : List Predicate} (due : Due depth list) :
    ∃ pending, depth + list.countP closes = list.countP opens + pending :=
  ⟨_, (Nat.add_sub_cancel' (Nat.le_of_lt (due list List.prefix_rfl))).symm⟩

/-- What one predicate adds to the groups opened and closed. -/
theorem countP_concat (list : List Predicate) (p : Predicate) :
    (list ++ [p]).countP opens = list.countP opens + (opens p).toNat ∧
      (list ++ [p]).countP closes = list.countP closes + (closes p).toNat := by
  cases p <;> simp [opens, closes]

/-- Over predicates with a group due all along, the scan changes nothing, and counts. -/
theorem markOpening_of_due {depth pending : Nat} {list : List Predicate} (due : Due depth list)
    (count : depth + list.countP closes = list.countP opens + pending) (outer : List Predicate) :
    markOpening depth (list ++ outer) = list ++ markOpening pending outer := by
  -- at the far end, since what is due is counted from where the scan begins
  induction list using List.reverseRecOn generalizing pending outer with
  | nil =>
      obtain rfl : depth = pending := by simpa using count
      rfl
  | append_singleton list p ih =>
      obtain ⟨before, here⟩ := due_concat.mp due
      obtain ⟨pending', count'⟩ := before.pending
      obtain ⟨opened, closed⟩ := countP_concat list p
      have step : markOpening pending' (p :: outer) = p :: markOpening pending outer := by
        cases p with
        | leaf test clause args byOr =>
            obtain rfl : pending' = pending := by
              simp only [opens, closes, Bool.toNat_false] at opened closed
              omega
            cases pending' <;> rfl
        | groupStart byOr =>
            obtain ⟨rfl, more⟩ : pending' = pending + 1 ∧ 0 < pending := by
              simp only [opens, closes, Bool.toNat_false, Bool.toNat_true] at opened closed
              omega
            obtain ⟨n, rfl⟩ := Nat.exists_eq_add_of_lt more
            rfl
        | groupEnd =>
            obtain rfl : pending = pending' + 1 := by
              simp only [opens, closes, Bool.toNat_false, Bool.toNat_true] at opened closed
              omega
            cases pending' <;> rfl
      rw [List.append_assoc, List.append_assoc, List.singleton_append, List.singleton_append,
        ih before count', step]

/-- A group is due all along a list, or up to a start that leaves none. -/
theorem due_or_split {depth : Nat} (positive : 0 < depth) (list : List Predicate) :
    Due depth list ∨ ∃ inner byOr outer, list = inner ++ .groupStart byOr :: outer ∧
      Due depth inner ∧ depth + inner.countP closes = inner.countP opens + 1 := by
  induction list using List.reverseRecOn with
  | nil => exact .inl (due_nil.mpr positive)
  | append_singleton list p ih =>
      rcases ih with due | ⟨inner, byOr, outer, rfl, due, last⟩
      · have still := due list List.prefix_rfl
        obtain ⟨opened, closed⟩ := countP_concat list p
        by_cases onward : (list ++ [p]).countP opens < depth + (list ++ [p]).countP closes
        · exact .inl (due_concat.mpr ⟨due, onward⟩)
        · cases p with
          | groupStart byOr =>
              refine .inr ⟨list, byOr, [], rfl, due, ?_⟩
              simp only [opens, closes, Bool.toNat_false, Bool.toNat_true] at opened closed
              omega
          | leaf | groupEnd =>
              simp only [opens, Bool.toNat_false] at opened
              omega
      · exact .inr ⟨inner, byOr, outer ++ [p], by simp, due, last⟩

/-- The counter is not taken below zero, from any list of predicates. -/
theorem markOpening?_eq {depth : Nat} (positive : 0 < depth) (list : List Predicate) :
    markOpening? depth list = some (markOpening depth list) := by
  fun_induction markOpening depth list with
  | case1 => rfl
  | case2 depth rest ih => simp [markOpening?, ih]
  | case3 => cases positive
  | case4 => rfl
  | case5 depth byOr rest ih => simp [markOpening?, ih]
  | case6 depth test clause args byOr rest ih => simp [markOpening?, ih positive]

/-! ## The matching start -/

/-- With a group due all along the predicates before the end of a group, read backwards, no start
among them matches the end. -/
theorem not_balanced_of_due {list : List Predicate} (due : Due 1 list.reverse) {i : Nat}
    (inside : i < (list ++ [groupEnd]).length) : ¬ Balanced ((list ++ [groupEnd]).drop i) := by
  rw [List.length_append, List.length_singleton] at inside
  have initial : (list.drop i).reverse <+: list.reverse :=
    List.reverse_prefix.mpr (List.drop_suffix i list)
  have still := due _ initial
  obtain ⟨opened, closed⟩ := countP_concat (list.drop i) .groupEnd
  rw [List.countP_reverse, List.countP_reverse] at still
  rw [List.drop_append_of_le_length (by omega), Balanced, opened, closed]
  simp only [opens, closes, Bool.toNat_false, Bool.toNat_true]
  omega

/-- A place is the greatest from which on a list is balanced. -/
theorem isGreatest_balanced (outer : List Predicate) {inner : List Predicate} {p : Predicate}
    (here : Balanced (p :: inner)) (later : ∀ i < inner.length, ¬ Balanced (inner.drop i)) :
    IsGreatest {i | i < (outer ++ p :: inner).length ∧ Balanced ((outer ++ p :: inner).drop i)}
      outer.length := by
  refine ⟨⟨by simp, by rwa [List.drop_left]⟩, fun i ⟨inside, balanced⟩ => ?_⟩
  by_contra beyond
  obtain ⟨k, rfl⟩ : ∃ k, i = outer.length + (k + 1) := ⟨i - outer.length - 1, by omega⟩
  rw [List.drop_length_add_append, List.drop_succ_cons] at balanced
  simp only [List.length_append, List.length_cons] at inside
  exact later k (by omega) balanced

/-- Behind the end of a group, the start that matches it is marked, or nothing is. -/
theorem marked_groupEnd (earlier : List Predicate) :
    let list := earlier ++ [.groupEnd]
    (marked list = list ∧ ∀ i < list.length, ¬ Balanced (list.drop i)) ∨
      ∃ outer byOr inner, list = outer ++ .groupStart byOr :: inner ∧
        marked list = outer ++ .groupStart true :: inner ∧
        Balanced (.groupStart byOr :: inner) ∧ ∀ i < inner.length, ¬ Balanced (inner.drop i) := by
  intro list
  have scan : markLast list.reverse = .groupEnd :: markOpening 1 earlier.reverse := by
    rw [List.reverse_concat]
    rfl
  rcases due_or_split Nat.one_pos earlier.reverse with due | ⟨inner, byOr, outer, split, due, last⟩
  · have whole : markOpening 1 earlier.reverse = earlier.reverse := by
      obtain ⟨pending, count⟩ := due.pending
      have all := markOpening_of_due due count []
      rwa [markOpening, List.append_nil] at all
    refine .inl ⟨?_, fun i inside => not_balanced_of_due due inside⟩
    rw [marked, scan, whole, List.reverse_cons, List.reverse_reverse]
  · obtain rfl : earlier = outer.reverse ++ .groupStart byOr :: inner.reverse := by
      simpa using congrArg List.reverse split
    have found := markOpening_of_due due last (.groupStart byOr :: outer)
    rw [← split, markOpening] at found
    refine .inr ⟨outer.reverse, byOr, inner.reverse ++ [.groupEnd], ?_, ?_, ?_, ?_⟩
    · simp [list]
    · rw [marked, scan, found]
      simp
    · simp only [Balanced, List.countP_cons, List.countP_append, List.countP_reverse,
        List.countP_nil, opens, closes, ↓reduceIte, Bool.false_eq_true]
      omega
    · exact fun i inside => not_balanced_of_due (by rwa [List.reverse_reverse]) inside

section Ended

variable {list earlier : List Predicate} (ended : list = earlier ++ [.groupEnd])

include ended

theorem marked_greatest {i : Nat}
    (greatest : IsGreatest {i | i < list.length ∧ Balanced (list.drop i)} i) :
    ∃ byOr, list[i]? = some (.groupStart byOr) ∧ marked list = list.set i (.groupStart true) := by
  rcases ended ▸ marked_groupEnd earlier with
    ⟨-, never⟩ | ⟨outer, byOr, inner, split, marks, here, later⟩
  · exact absurd greatest.1.2 (never i greatest.1.1)
  · rw [split] at greatest
    obtain rfl := greatest.unique (isGreatest_balanced outer here later)
    refine ⟨byOr, by simp [split], ?_⟩
    rw [marks, split]
    simp

theorem marked_unmatched (unmatched : ∀ i < list.length, ¬ Balanced (list.drop i)) :
    marked list = list := by
  rcases ended ▸ marked_groupEnd earlier with
    ⟨same, -⟩ | ⟨outer, byOr, inner, split, -, here, -⟩
  · exact same
  · have never := unmatched outer.length (by simp [split])
    rw [split, List.drop_left] at never
    exact absurd here never

theorem markOpening?_ended : markOpening? 0 list.reverse = some (marked list).reverse := by
  rw [ended, marked, List.reverse_reverse, List.reverse_concat, markOpening?,
    markOpening?_eq Nat.one_pos]
  rfl

end Ended

theorem marked_concat (earlier : List Predicate) {p : Predicate} (plain : p ≠ .groupEnd) :
    marked (earlier ++ [p]) = earlier ++ [p.alternative] := by
  rw [marked, List.reverse_concat]
  cases p with
  | leaf | groupStart => simp [markLast, alternative]
  | groupEnd => exact absurd rfl plain

/-- No more than how one predicate is joined is changed. -/
theorem marked_eq_set (list : List Predicate) :
    marked list = list ∨ ∃ i p, list[i]? = some p ∧ marked list = list.set i p.alternative := by
  cases list using List.reverseRecOn with
  | nil => exact .inl rfl
  | append_singleton earlier p =>
      by_cases plain : p = .groupEnd
      · subst plain
        rcases marked_groupEnd earlier with ⟨same, -⟩ | ⟨outer, byOr, inner, split, marks, -⟩
        · exact .inl same
        · refine .inr ⟨outer.length, .groupStart byOr, by simp [split], ?_⟩
          rw [marks, split]
          simp [alternative]
      · exact .inr ⟨earlier.length, p, by simp, by simp [marked_concat earlier plain]⟩

end Predicate

open Predicate

/-- **An alternative marks the start that the last end matches.** Of a query, only the WHERE list
changes, and in it no more than how one predicate is joined. Of an empty list nothing changes. A last
predicate that ends no group is joined by OR. For the end of a group the scan never takes its counter
below zero, and marks the start at the greatest place from which on the list opens as many groups
as it closes; if there is no such place, nothing is marked. -/
theorem Query.alternative_marks_match (q : Query) :
    let after := q.apply .orLast
    after = { q with conditions := after.conditions } ∧
    (after.conditions = q.conditions ∨ ∃ i p, q.conditions[i]? = some p ∧
      after.conditions = q.conditions.set i p.alternative) ∧
    (q.conditions = [] → ∀ built, Memo.apply ⟨q, built⟩ .orLast = ⟨q, built⟩) ∧
    (∀ earlier p, q.conditions = earlier ++ [p] → p ≠ .groupEnd →
      after.conditions = earlier ++ [p.alternative]) ∧
    ∀ earlier, q.conditions = earlier ++ [.groupEnd] →
      markOpening? 0 q.conditions.reverse = some after.conditions.reverse ∧
      (∀ i, IsGreatest {i | i < q.conditions.length ∧ Balanced (q.conditions.drop i)} i →
        ∃ byOr, q.conditions[i]? = some (.groupStart byOr) ∧
          after.conditions = q.conditions.set i (.groupStart true)) ∧
      ((∀ i < q.conditions.length, ¬ Balanced (q.conditions.drop i)) →
        after.conditions = q.conditions) := by
  intro after
  refine ⟨rfl, marked_eq_set q.conditions, fun none built => ?_, fun earlier p last plain => ?_,
    fun earlier ended => ⟨markOpening?_ended ended, fun i => marked_greatest ended,
      marked_unmatched ended⟩⟩
  · simp [Memo.apply, Edit.forgets, none, apply_orLast_of_nil none]
  · exact (congrArg marked last).trans (marked_concat earlier plain)

/-- A group that is closed without a start, and one group in another. -/
def strayEnd : Query :=
  (Query.empty .postgres).applyAll
    [.closeGroup, .openGroup, .appendLeaf .plain "a = ?" [.int 1], .openGroup,
      .appendLeaf .plain "b = ?" [.int 2], .closeGroup, .closeGroup]

theorem strayEnd_alternative :
    IsGreatest {i | i < strayEnd.conditions.length ∧ Balanced (strayEnd.conditions.drop i)} 1 ∧
      (strayEnd.apply .orLast).conditions = strayEnd.conditions.set 1 (.groupStart true) ∧
      let further := strayEnd.apply .closeGroup
      (∀ i < further.conditions.length, ¬ Balanced (further.conditions.drop i)) ∧
        (further.apply .orLast).conditions = further.conditions := by
  have here : Balanced (.groupStart false :: strayEnd.conditions.drop 2) := by decide
  have greatest := isGreatest_balanced [.groupEnd] here (by decide)
  have matched := (Query.alternative_marks_match strayEnd).2.2.2.2 _ rfl
  have unmatched := (Query.alternative_marks_match (strayEnd.apply .closeGroup)).2.2.2.2 _ rfl
  obtain ⟨byOr, -, marks⟩ := matched.2.1 1 greatest
  exact ⟨greatest, marks, by decide, unmatched.2.2 (by decide)⟩

end QueryBind
