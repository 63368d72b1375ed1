/-
# QueryBind.Proofs.Query.Isolation — every predicate is a unit of its own

In a WHERE list without groups every predicate stands between parentheses. Where the clauses are
balanced, the text of a predicate is a unit (`isUnit_leafText`), so that cutting the rendered list
at depth zero gives the predicates back, each with its joiner (`predicates_are_isolated`): no
operator inside a clause reaches past the clause's own parentheses.
-/
import QueryBind.Proofs.Query.Condition
import QueryBind.Proofs.Query.Membership

namespace QueryBind

set_option autoImplicit false

open QueryBind.Symbol Text

namespace Predicate

/-- The clause closes every parenthesis it opens, and the list of a membership test is a whole
number of groups. -/
def IsClosed : Predicate → Prop
  | .leaf .plain clause _ _ => Balanced clause.toList
  | .leaf _ clause args _ =>
      Balanced clause.toList ∧ Membership.WholeGroups clause.toList args.length
  | _ => True

instance : (p : Predicate) → Decidable p.IsClosed
  | .leaf .plain _ _ _ => inferInstanceAs (Decidable (Balanced _))
  | .leaf .among _ _ _ | .leaf .notAmong _ _ _ =>
      inferInstanceAs (Decidable (Balanced _ ∧ Membership.WholeGroups _ _))
  | .groupStart _ | .groupEnd => isTrue trivial

/-- The leaves of a list, each as the joiner before it and its text; the first one has no joiner.
`start` is the number of the first argument. -/
def joined (numbered : Bool) : (first : Bool) → (start : Nat) → List Predicate →
    List (List Char × List Char)
  | first, start, .leaf test clause args byOr :: rest =>
      (if first then [] else joiner byOr, Condition.leafText numbered true start test clause args) ::
        joined numbered false (start + args.length) rest
  | first, start, _ :: rest => joined numbered first start rest
  | _, _, [] => []

/-- The text of a closed predicate is a unit. -/
theorem isUnit_leafText (numbered : Bool) (start : Nat) {test : Test} {clause : String}
    {args : List Value} {byOr : Bool} (closed : (leaf test clause args byOr).IsClosed) :
    IsUnit (Condition.leafText numbered true start test clause args) := by
  have member (test : Test) (balanced : Balanced clause.toList)
      (whole : Membership.WholeGroups clause.toList args.length) :
      Balanced (render numbered start (Membership.clauseSymbols clause.toList args.length)) :=
    (Membership.keepsDepth_clauseSymbols whole numbered start 0).trans balanced
  cases test with
  | plain =>
      have balanced : Balanced clause.toList := closed
      exact isUnit_enclosed
        ((Marker.keepsDepth_readFrom 0 clause.toList numbered start 0).trans balanced)
  | among =>
      cases args with
      | nil => exact ⟨"1=0".toList, rfl, by decide⟩
      | cons v rest => exact isUnit_enclosed (member .among closed.1 closed.2)
  | notAmong =>
      cases args with
      | nil => exact ⟨"1=1".toList, rfl, by decide⟩
      | cons v rest => exact isUnit_enclosed (member .notAmong closed.1 closed.2)

section Ungrouped

variable {predicates : List Predicate} (ungrouped : ∀ p ∈ predicates, p.isGroupEdge = false)

include ungrouped

/-- The pass over a list without groups writes each leaf after its joiner. -/
theorem render_fragmentFrom (numbered first : Bool) (start : Nat) :
    render numbered start (fragmentFrom true (!first) predicates).symbols =
      (joined numbered first start predicates).flatMap fun piece => piece.1 ++ piece.2 := by
  induction predicates generalizing first start with
  | nil => rfl
  | cons p rest ih =>
      obtain ⟨leafFirst, others⟩ := List.forall_mem_cons.mp ungrouped
      cases p with
      | groupStart byOr => cases leafFirst
      | groupEnd => cases leafFirst
      | leaf test clause args byOr =>
          have onward := ih others false (start + args.length)
          simp only [fragmentFrom, Fragment.render_append, Condition.render_leafFragment,
            Fragment.append_args, args_leafFragment, joined, List.flatMap_cons, ← onward]
          cases first <;> simp [Fragment.ofText]

theorem length_joined (numbered first : Bool) (start : Nat) :
    (joined numbered first start predicates).length = predicates.length := by
  induction predicates generalizing first start with
  | nil => rfl
  | cons p rest ih =>
      obtain ⟨leafFirst, others⟩ := List.forall_mem_cons.mp ungrouped
      cases p with
      | groupStart byOr => cases leafFirst
      | groupEnd => cases leafFirst
      | leaf test clause args byOr => simp [joined, ih others]

end Ungrouped

/-- The pieces of a list of closed predicates are units after joiners. -/
theorem forall_mem_joined {predicates : List Predicate} (closed : ∀ p ∈ predicates, p.IsClosed)
    (numbered first : Bool) (start : Nat) :
    ∀ piece ∈ joined numbered first start predicates,
      IsUnit piece.2 ∧ (piece.1 = [] ∨ piece.1 = " AND ".toList ∨ piece.1 = " OR ".toList) := by
  induction predicates generalizing first start with
  | nil => simp [joined]
  | cons p rest ih =>
      obtain ⟨closedFirst, others⟩ := List.forall_mem_cons.mp closed
      cases p with
      | groupStart byOr => exact ih others first start
      | groupEnd => exact ih others first start
      | leaf test clause args byOr =>
          refine List.forall_mem_cons.mpr ⟨⟨isUnit_leafText numbered start closedFirst, ?_⟩,
            ih others false (start + args.length)⟩
          cases first with
          | true => exact .inl rfl
          | false => cases byOr <;> simp [joiner]

end Predicate

/-- Pieces that are units, each after a text that opens no parenthesis, are cut off one by one. -/
theorem Text.enclosures_flatMap {pieces : List (List Char × List Char)}
    (units : ∀ piece ∈ pieces, IsUnit piece.2 ∧ '(' ∉ piece.1) :
    enclosures 0 (pieces.flatMap fun piece => piece.1 ++ piece.2) = pieces ++ [([], [])] := by
  induction pieces with
  | nil => rfl
  | cons piece pieces ih =>
      obtain ⟨⟨enclosed, opens⟩, others⟩ := List.forall_mem_cons.mp units
      rw [List.flatMap_cons, enclosures_unit opens enclosed, ih others]
      rfl

/-- **Predicates are isolated.** In a rendered WHERE list without groups, whose clauses are balanced
and whose lists are whole numbers of groups, the units at depth zero are the texts of the
predicates, one each and in order, and outside of them stand only the joiners. -/
theorem Query.predicates_are_isolated {predicates : List Predicate}
    (ungrouped : ∀ p ∈ predicates, p.isGroupEdge = false)
    (closed : ∀ p ∈ predicates, p.IsClosed) (d : Dialect) (start : Nat) :
    ∃ text, Symbol.render d.numbered start ((Section.conditions predicates).fragment d).symbols =
        " WHERE ".toList ++ text ∧
      enclosures 0 text = Predicate.joined d.numbered true start predicates ++ [([], [])] ∧
      (Predicate.joined d.numbered true start predicates).length = predicates.length ∧
      ∀ piece ∈ Predicate.joined d.numbered true start predicates, IsUnit piece.2 ∧
        (piece.1 = [] ∨ piece.1 = " AND ".toList ∨ piece.1 = " OR ".toList) := by
  have pieces := Predicate.forall_mem_joined closed d.numbered true start
  have single : predicates.any Predicate.isGroupEdge = false := by
    simpa using ungrouped
  refine ⟨_, ?_, Text.enclosures_flatMap fun piece member => ?_,
    Predicate.length_joined ungrouped d.numbered true start, pieces⟩
  · rw [Section.fragment, Fragment.render_append, Fragment.ofText, render_ofText,
      Predicate.listFragment, single]
    exact congrArg _ (Predicate.render_fragmentFrom ungrouped d.numbered true start)
  · obtain ⟨enclosed, outside⟩ := pieces piece member
    refine ⟨enclosed, ?_⟩
    rcases outside with same | same | same <;> rw [same] <;> decide

/-- Clauses with an operator inside, with groups of values, and with no value at all. -/
def Query.isolatedConditions : List Predicate :=
  [.leaf .plain "a = ? OR f(b)" [.int 1] false,
    .leaf .among "(c, d) in ?" [.int 2, .int 3, .int 4, .int 5] true,
    .leaf .notAmong "e not in ?" [] false]

theorem Query.isolatedConditions_pieces :
    (∀ p ∈ isolatedConditions, p.isGroupEdge = false) ∧ (∀ p ∈ isolatedConditions, p.IsClosed) ∧
      ∃ text, Symbol.render true 1 ((Section.conditions isolatedConditions).fragment
          .postgres).symbols = " WHERE ".toList ++ text ∧
        enclosures 0 text =
          [([], "(a = $1 OR f(b))".toList),
            (" OR ".toList, "((c, d) IN (($2,$3),($4,$5)))".toList),
            (" AND ".toList, "(1=1)".toList), ([], [])] := by
  have ungrouped : ∀ p ∈ isolatedConditions, p.isGroupEdge = false := by decide
  have closed : ∀ p ∈ isolatedConditions, p.IsClosed := by decide
  obtain ⟨text, rendered, pieces, -⟩ := predicates_are_isolated ungrouped closed .postgres 1
  refine ⟨ungrouped, closed, text, rendered, pieces.trans ?_⟩
  decide

end QueryBind
