/-
# QueryBind.Proofs.Query.Numbering — a statement's placeholders number its arguments

A fragment is *exact* when its places are those of its own arguments, each once and in order.
Exact fragments are closed under append (`exact_append`), so a statement whose clauses are exact
is exact. Clause lists are read as one joined text; where every clause has as many markers as
arguments, that is the same as reading each clause with its own arguments
(`ofClauses_eq_joinWith`, `Section.fragment_eq_clausewise`). The main statement,
`placeholders_number_arguments`, says of a statement of any kind that its placeholders are
`$1`, …, `$n` from left to right, for the `n` arguments in the order of the clauses.
-/
import QueryBind.Proofs.Marker.Places
import QueryBind.Proofs.Query.Layout

namespace QueryBind

set_option autoImplicit false

open QueryBind.Symbol Marker

/-! ## Exact fragments -/

namespace Fragment

/-- The places are those of the fragment's own arguments, each once and in order. -/
def Exact (f : Fragment) : Prop := offsets f.symbols = List.range f.args.length

theorem exact_empty : empty.Exact := rfl

theorem exact_ofText (s : List Char) : (ofText s).Exact := offsets_ofText s

theorem exact_ofValue (v : Value) : (ofValue v).Exact := rfl

theorem exact_ofClause {clause : List Char} {args : List Value}
    (fits : count clause = args.length) : (ofClause clause args).Exact := by
  rw [Exact, ofClause, offsets_read, fits]

theorem exact_append {a b : Fragment} (ha : a.Exact) (hb : b.Exact) : (a ++ b).Exact := by
  unfold Exact at ha hb ⊢
  rw [append_symbols, offsets_append, offsets_map_shift, ha, hb, append_args, List.length_append,
    List.range_add]

theorem exact_concat {fragments : List Fragment} (all : ∀ f ∈ fragments, f.Exact) :
    (concat fragments).Exact := by
  induction fragments with
  | nil => exact exact_empty
  | cons f rest ih =>
      obtain ⟨first, others⟩ := List.forall_mem_cons.1 all
      exact exact_append first (ih others)

theorem exact_joinWith (separator : List Char) {fragments : List Fragment}
    (all : ∀ f ∈ fragments, f.Exact) : (joinWith separator fragments).Exact := by
  fun_induction joinWith separator fragments with
  | case1 => exact exact_empty
  | case2 f => exact all f (List.mem_singleton_self f)
  | case3 f rest _ ih =>
      obtain ⟨first, others⟩ := List.forall_mem_cons.1 all
      exact exact_append (exact_append first (exact_ofText separator)) (ih others)

@[simp] theorem args_ofText (s : List Char) : (ofText s).args = [] := rfl

@[simp] theorem args_ofClause (clause : List Char) (args : List Value) :
    (ofClause clause args).args = args := rfl

@[simp] theorem args_concat (fragments : List Fragment) :
    (concat fragments).args = fragments.flatMap (·.args) := by
  induction fragments with
  | nil => rfl
  | cons f rest ih =>
      show f.args ++ (concat rest).args = _
      rw [ih, List.flatMap_cons]

@[simp] theorem args_joinWith (separator : List Char) (fragments : List Fragment) :
    (joinWith separator fragments).args = fragments.flatMap (·.args) := by
  fun_induction joinWith separator fragments with
  | case1 => rfl
  | case2 f => simp
  | case3 f rest _ ih => simp [ih]

@[simp] theorem args_ofClauses (separator : List Char) (clauses : List Clause) :
    (ofClauses separator clauses).args = clauses.flatMap (·.args) := rfl

/-! ## Clauses read as one text -/

/-- Two clauses read as one are the two clauses, when the first has its own arguments. -/
theorem ofClause_append {a b : List Char} {first second : List Value}
    (fits : count a = first.length) (seamless : Seamless a b) :
    ofClause (a ++ b) (first ++ second) = ofClause a first ++ ofClause b second := by
  show Fragment.mk _ _ = Fragment.mk _ _
  rw [read_append seamless, fits]
  rfl

theorem ofClause_of_free {s : List Char} (free : '?' ∉ s) : ofClause s [] = ofText s := by
  rw [ofClause, read_eq_ofText free, ofText]

/-- A text that makes no escape with what stands before or after it. -/
structure Separates (s : List Char) : Prop where
  nonempty : s ≠ []
  noMark : '?' ∉ s
  noEscape : '\\' ∉ s

theorem Separates.before {s : List Char} (separates : Separates s) (a b : List Char) :
    Seamless a (s ++ b) := by
  intro _ head
  rw [List.head?_append_of_ne_nil s separates.nonempty] at head
  exact separates.noMark (List.mem_of_head? head)

theorem Separates.after {s : List Char} (separates : Separates s) (b : List Char) :
    Seamless s b :=
  fun last => absurd (List.mem_of_getLast? last) separates.noEscape

theorem ofClause_separator {s : List Char} (separates : Separates s) (b : List Char)
    (args : List Value) : ofClause (s ++ b) args = ofText s ++ ofClause b args := by
  rw [← ofClause_of_free separates.noMark]
  have unasked : count s = ([] : List Value).length := count_eq_zero separates.noMark
  exact ofClause_append unasked (separates.after b)

end Fragment

namespace Clause

/-- The clause read with its own arguments. -/
def fragment (c : Clause) : Fragment := .ofClause c.clause.toList c.args

/-- The clause has one marker for each of its arguments. -/
def MarkersFit (c : Clause) : Prop := count c.clause.toList = c.args.length

instance (c : Clause) : Decidable c.MarkersFit := inferInstanceAs (Decidable (_ = _))

theorem exact_fragment {c : Clause} (fits : c.MarkersFit) : c.fragment.Exact :=
  Fragment.exact_ofClause fits

end Clause

namespace Fragment

theorem ofClauses_eq_joinWith {separator : List Char} (separates : Separates separator)
    {clauses : List Clause} (fit : ∀ c ∈ clauses, c.MarkersFit) :
    ofClauses separator clauses = joinWith separator (clauses.map Clause.fragment) := by
  induction clauses with
  | nil => rfl
  | cons c rest ih =>
      obtain ⟨first, others⟩ := List.forall_mem_cons.1 fit
      cases rest with
      | nil => simp [ofClauses, joinWith, Clause.fragment, List.intercalate]
      | cons d rest =>
          have joined : ofClauses separator (c :: d :: rest) =
              ofClause (c.clause.toList ++ (separator ++ separator.intercalate
                ((d :: rest).map (·.clause.toList)))) (c.args ++ (d :: rest).flatMap (·.args)) := by
            simp [ofClauses, List.intercalate_cons_cons]
          rw [joined, ofClause_append first (separates.before _ _), ofClause_separator separates]
          show c.fragment ++ (ofText separator ++ ofClauses separator (d :: rest)) = _
          rw [ih others, ← append_assoc]
          rfl

end Fragment

namespace Join

/-- The join read with its own arguments. -/
def fragment (j : Join) : Fragment :=
  .ofText (' ' :: j.kind.keyword.toList ++ [' ']) ++ .ofClause j.clause.toList j.args

/-- The join has one marker for each of its arguments. -/
def MarkersFit (j : Join) : Prop := count j.clause.toList = j.args.length

instance (j : Join) : Decidable j.MarkersFit := inferInstanceAs (Decidable (_ = _))

theorem exact_fragment {j : Join} (fits : j.MarkersFit) : j.fragment.Exact :=
  Fragment.exact_append (Fragment.exact_ofText _) (Fragment.exact_ofClause fits)

@[simp] theorem args_fragment (j : Join) : j.fragment.args = j.args := by simp [fragment]

end Join

namespace Query

open Fragment

theorem separates_joinKeyword (kind : JoinKind) :
    Separates (' ' :: kind.keyword.toList ++ [' ']) := by
  refine ⟨by simp, ?_, ?_⟩ <;> cases kind <;> decide

theorem joinText_cons (j : Join) (rest : List Join) :
    joinText (j :: rest) =
      (' ' :: j.kind.keyword.toList ++ [' ']) ++ (j.clause.toList ++ joinText rest) := by
  simp [joinText]

theorem seamless_joinText (a : List Char) (joins : List Join) : Seamless a (joinText joins) := by
  intro _
  cases joins with
  | nil => simp [joinText]
  | cons j rest => simp [joinText]

theorem ofClause_joinText {joins : List Join} (fit : ∀ j ∈ joins, j.MarkersFit) :
    ofClause (joinText joins) (joins.flatMap (·.args)) = concat (joins.map Join.fragment) := by
  induction joins with
  | nil => rfl
  | cons j rest ih =>
      obtain ⟨first, others⟩ := List.forall_mem_cons.1 fit
      rw [joinText_cons, ofClause_separator (separates_joinKeyword j.kind), List.flatMap_cons,
        ofClause_append first (seamless_joinText _ rest), ih others, ← append_assoc]
      rfl

end Query

/-! ## Predicates -/

namespace Predicate

/-- The arguments of a predicate. -/
def args : Predicate → List Value
  | .leaf _ _ args _ => args
  | _ => []

/-- The markers of a predicate take its arguments: one each, or all by the expanded list. An
empty membership list takes none. -/
def MarkersFit : Predicate → Prop
  | .leaf .plain clause args _ => count clause.toList = args.length
  | .leaf _ clause args _ => args ≠ [] → Membership.Reaches clause.toList args.length
  | _ => True

instance : (p : Predicate) → Decidable p.MarkersFit
  | .leaf .plain _ _ _ => inferInstanceAs (Decidable (_ = _))
  | .leaf .among _ _ _ | .leaf .notAmong _ _ _ =>
      inferInstanceAs (Decidable (_ ≠ [] → Membership.Reaches _ _))
  | .groupStart _ | .groupEnd => isTrue trivial

theorem args_leafFragment (enclose : Bool) (test : Test) (clause : String) (args : List Value) :
    (leafFragment enclose test clause args).args = args := by
  unfold leafFragment
  cases test <;> cases args <;> cases enclose <;> simp

theorem exact_leafFragment (enclose : Bool) {test : Test} {clause : String} {args : List Value}
    {byOr : Bool} (fits : (Predicate.leaf test clause args byOr).MarkersFit) :
    (leafFragment enclose test clause args).Exact := by
  have enclosed : ∀ body : Fragment, body.Exact →
      (if enclose then Fragment.ofText ['('] ++ body ++ .ofText [')'] else body).Exact := by
    intro body exact_
    split
    · exact Fragment.exact_append (Fragment.exact_append (Fragment.exact_ofText _) exact_)
        (Fragment.exact_ofText _)
    · exact exact_
  cases test with
  | plain => exact enclosed _ (Fragment.exact_ofClause fits)
  | among =>
      cases args with
      | nil => exact Fragment.exact_ofText _
      | cons v rest =>
          exact enclosed ⟨_, _⟩ (Membership.offsets_clauseSymbols (fits (List.cons_ne_nil v rest)))
  | notAmong =>
      cases args with
      | nil => exact Fragment.exact_ofText _
      | cons v rest =>
          exact enclosed ⟨_, _⟩ (Membership.offsets_clauseSymbols (fits (List.cons_ne_nil v rest)))

theorem args_fragmentFrom (enclose joined : Bool) (predicates : List Predicate) :
    (fragmentFrom enclose joined predicates).args = predicates.flatMap args := by
  fun_induction fragmentFrom enclose joined predicates with
  | case1 => rfl
  | case2 _ rest ih => simpa [args] using ih
  | case3 _ byOr rest ih => simpa [args] using ih
  | case4 _ test clause values byOr rest ih => simp [args, ih, args_leafFragment]

theorem exact_fragmentFrom (enclose joined : Bool) {predicates : List Predicate}
    (fit : ∀ p ∈ predicates, p.MarkersFit) : (fragmentFrom enclose joined predicates).Exact := by
  fun_induction fragmentFrom enclose joined predicates with
  | case1 => exact Fragment.exact_empty
  | case2 _ rest ih =>
      exact Fragment.exact_append (Fragment.exact_ofText _) (ih (List.forall_mem_cons.1 fit).2)
  | case3 _ byOr rest ih =>
      exact Fragment.exact_append (Fragment.exact_ofText _) (ih (List.forall_mem_cons.1 fit).2)
  | case4 _ test clause args byOr rest ih =>
      obtain ⟨first, others⟩ := List.forall_mem_cons.1 fit
      exact Fragment.exact_append (Fragment.exact_append (Fragment.exact_ofText _)
        (exact_leafFragment enclose first)) (ih others)

end Predicate

/-! ## Sections -/

namespace Query

open Fragment

namespace Section

/-- The markers of every clause of the section take the clause's arguments. -/
def MarkersFit : Section → Prop
  | .ctes clauses | .having clauses | .ordering clauses => ∀ c ∈ clauses, c.MarkersFit
  | .joins list => ∀ j ∈ list, j.MarkersFit
  | .conditions predicates => ∀ p ∈ predicates, p.MarkersFit
  | _ => True

instance : (s : Section) → Decidable s.MarkersFit
  | .ctes clauses | .having clauses | .ordering clauses =>
      inferInstanceAs (Decidable (∀ c ∈ clauses, c.MarkersFit))
  | .joins list => inferInstanceAs (Decidable (∀ j ∈ list, j.MarkersFit))
  | .conditions predicates => inferInstanceAs (Decidable (∀ p ∈ predicates, p.MarkersFit))
  | .comment _ | .keyword _ | .top _ | .projection _ | .tables _ | .assignments _ | .grouping _
  | .anyOrder | .limit _ | .offset _ | .skipRows _ | .fetchRows _ | .lock _ => isTrue trivial

/-- The arguments of the section's clauses, clause by clause. -/
def args : Section → List Value
  | .ctes clauses | .having clauses | .ordering clauses => clauses.flatMap (·.args)
  | .joins list => list.flatMap (·.args)
  | .assignments columns => columns.map (·.2)
  | .conditions predicates => predicates.flatMap Predicate.args
  | _ => []

/-- The section with each of its clauses read on its own, with its own arguments. -/
def clausewise (d : Dialect) : Section → Fragment
  | .ctes clauses =>
      .ofText "WITH ".toList ++ joinWith [',', ' '] (clauses.map Clause.fragment) ++ .ofText [' ']
  | .joins list => concat (list.map Join.fragment)
  | .having clauses =>
      .ofText " HAVING ".toList ++ joinWith " AND ".toList (clauses.map Clause.fragment)
  | .ordering clauses =>
      .ofText " ORDER BY ".toList ++ joinWith [',', ' '] (clauses.map Clause.fragment)
  | s => s.fragment d

theorem separates_comma : Separates [',', ' '] := ⟨by decide, by decide, by decide⟩

theorem separates_and : Separates " AND ".toList := ⟨by decide, by decide, by decide⟩

theorem fragment_eq_clausewise (d : Dialect) {s : Section} (fit : s.MarkersFit) :
    s.fragment d = s.clausewise d := by
  cases s with
  | ctes clauses => simp only [fragment, clausewise, ofClauses_eq_joinWith separates_comma fit]
  | having clauses => simp only [fragment, clausewise, ofClauses_eq_joinWith separates_and fit]
  | ordering clauses => simp only [fragment, clausewise, ofClauses_eq_joinWith separates_comma fit]
  | joins list => exact ofClause_joinText fit
  | _ => rfl

@[simp] theorem args_fragment (d : Dialect) (s : Section) : (s.fragment d).args = s.args := by
  cases s with
  | assignments columns =>
      rw [fragment, args_joinWith, List.flatMap_map, args, List.map_eq_flatMap]
      rfl
  | conditions predicates =>
      simp [fragment, args, Predicate.listFragment, Predicate.args_fragmentFrom]
  | _ => simp [fragment, args, numeral]

theorem exact_fragment (d : Dialect) {s : Section} (fit : s.MarkersFit) :
    (s.fragment d).Exact := by
  have clauses : ∀ {separator : List Char} {list : List Clause}, (∀ c ∈ list, c.MarkersFit) →
      (joinWith separator (list.map Clause.fragment)).Exact := by
    intro separator list all
    refine exact_joinWith separator (List.forall_mem_map.2 fun c member => ?_)
    exact Clause.exact_fragment (all c member)
  rw [fragment_eq_clausewise d fit]
  cases s with
  | ctes list => exact exact_append (exact_append (exact_ofText _) (clauses fit)) (exact_ofText _)
  | having list => exact exact_append (exact_ofText _) (clauses fit)
  | ordering list => exact exact_append (exact_ofText _) (clauses fit)
  | joins list =>
      exact exact_concat (List.forall_mem_map.2 fun j member => Join.exact_fragment (fit j member))
  | assignments columns =>
      exact exact_joinWith _ (List.forall_mem_map.2 fun c _ =>
        exact_append (exact_ofText _) (exact_ofValue c.2))
  | conditions predicates =>
      exact exact_append (exact_ofText _) (Predicate.exact_fragmentFrom _ _ fit)
  | _ => exact exact_ofText _

end Section

/-! ## Statements -/

/-- The arguments of a built statement: those of the CTEs, the values set by an UPDATE or the
arguments of a SELECT's joins, then those of the WHERE list, of HAVING and of ORDER BY. -/
def arguments (q : Query) : List Value :=
  q.ctes.flatMap (·.args) ++
    (match q.statement with
    | .raw _ _ | .delete => []
    | .update (column :: columns) => (column :: columns).map (·.2)
    | .update [] | .select => q.joins.flatMap (·.args)) ++
    q.conditions.flatMap Predicate.args ++ q.having.flatMap (·.args) ++
    q.ordering.flatMap (·.args)

/-- In every clause of the statement the markers take the clause's arguments. -/
def MarkersFit (q : Query) : Prop := ∀ s ∈ q.layout, s.MarkersFit

instance (q : Query) : Decidable q.MarkersFit :=
  inferInstanceAs (Decidable (∀ s ∈ q.layout, s.MarkersFit))

/-- The statement with each clause read on its own, with its own arguments. -/
def clausewise (q : Query) : Fragment :=
  concat (q.layout.map (Section.clausewise q.dialect)) ++ .ofText [';']

theorem args_preamble (q : Query) :
    q.preamble.flatMap Section.args = q.ctes.flatMap (·.args) := by
  rw [preamble, List.flatMap_append, flatMap_unlessEmpty _ _ _ rfl]
  cases q.comment <;> rfl

theorem args_window (q : Query) : q.window.flatMap Section.args = [] := by
  unfold window
  cases q.limit <;> split <;> split <;> try split
  all_goals rfl

theorem args_tail (q : Query) :
    q.tail.flatMap Section.args =
      q.conditions.flatMap Predicate.args ++ q.having.flatMap (·.args) ++
        q.ordering.flatMap (·.args) := by
  have lock : (q.lock.map Section.lock).toList.flatMap Section.args = [] := by
    cases q.lock <;> rfl
  simp only [tail, modifiers, List.flatMap_append, args_window, lock,
    flatMap_unlessEmpty _ Section.conditions Section.args rfl,
    flatMap_unlessEmpty _ Section.grouping Section.args rfl,
    flatMap_unlessEmpty _ Section.having Section.args rfl,
    flatMap_unlessEmpty _ Section.ordering Section.args rfl]
  simp [Section.args]

theorem args_layout {q : Query} (built : q.IsBuilt) :
    q.layout.flatMap Section.args = q.arguments := by
  have head : q.head.flatMap Section.args = [] := by
    unfold head
    split
    · cases q.limit <;> rfl
    · rfl
  have joins := flatMap_unlessEmpty q.joins .joins Section.args rfl
  unfold layout arguments
  cases kind : q.statement with
  | raw sql args => exact absurd kind (built sql args)
  | select => simp [selectLayout, args_preamble, args_tail, head, joins, Section.args]
  | delete => simp [deleteLayout, args_preamble, args_tail, Section.args]
  | update columns =>
      cases columns with
      | nil => simp [selectLayout, args_preamble, args_tail, head, joins, Section.args]
      | cons column columns => simp [updateLayout, args_preamble, args_tail, Section.args]

theorem exact_clausewise {q : Query} (fit : q.MarkersFit) : q.clausewise.Exact := by
  refine exact_append (exact_concat (List.forall_mem_map.2 fun s member => ?_)) (exact_ofText _)
  rw [← Section.fragment_eq_clausewise q.dialect (fit s member)]
  exact Section.exact_fragment q.dialect (fit s member)

theorem render_eq_clausewise {q : Query} (built : q.IsBuilt) (fit : q.MarkersFit) :
    q.render = q.clausewise.render q.dialect.numbered := by
  rw [render_of_isBuilt built, renderLayout, clausewise]
  congr 3
  exact List.map_congr_left fun s member => Section.fragment_eq_clausewise q.dialect (fit s member)

theorem args_clausewise {q : Query} (built : q.IsBuilt) (fit : q.MarkersFit) :
    q.clausewise.args = q.arguments := by
  have same : q.layout.map (Section.clausewise q.dialect) =
      q.layout.map (Section.fragment q.dialect) :=
    List.map_congr_left fun s member =>
      (Section.fragment_eq_clausewise q.dialect (fit s member)).symm
  simp [clausewise, same, List.flatMap_map, args_layout built]

end Query

/-- The numbers of the places, from left to right, when the first argument has number `start`. -/
def Symbol.numbers (start : Nat) (symbols : List Symbol) : List Nat :=
  (offsets symbols).map (start + ·)

/-- **A statement's placeholders number its arguments.** Where every clause's markers take the
clause's own arguments, a built statement is the clauses one after the other, each read with its own
arguments; its placeholders are `$1`, …, `$n` from left to right, and its `n` arguments stand in
the order of the clauses. The values of an UPDATE stand in the ascending order of their columns. -/
theorem Query.placeholders_number_arguments (q : Query) (numbered : q.dialect.numbered = true)
    (built : q.IsBuilt) (fit : q.MarkersFit) :
    q.render = ⟨String.ofList (Symbol.render true 1 q.clausewise.symbols), q.arguments⟩ ∧
      Symbol.numbers 1 q.clausewise.symbols = List.range' 1 q.arguments.length ∧
      (q.Reachable → q.SetsAscending) := by
  refine ⟨?_, ?_, Query.Reachable.ascending⟩
  · rw [render_eq_clausewise built fit, numbered, Fragment.render, args_clausewise built fit]
  · rw [Symbol.numbers, exact_clausewise fit, args_clausewise built fit, List.range'_eq_map_range]

/-- A SELECT with an argument in every kind of clause that takes one. -/
def Query.crowded : Query :=
  (empty .postgres).applyAll
    [.appendFrom "t", .appendWith "c AS (SELECT ?)" [.int 1],
      .appendJoin .inner "u ON u.k = ?" [.int 2],
      .appendLeaf .among "t.a + ? in ?" [.int 3, .int 4, .int 5],
      .appendLeaf .notAmong "b not in ?" [], .appendLeaf .plain "d \\? e" [],
      .appendHaving "max(x) > ?" [.int 6], .appendOrderBy "y = ?" [.int 7]]

theorem Query.crowded_placeholders :
    crowded.dialect.numbered = true ∧ crowded.IsBuilt ∧ crowded.MarkersFit ∧ crowded.Reachable ∧
      crowded.render =
        ⟨String.ofList (Symbol.render true 1 crowded.clausewise.symbols), crowded.arguments⟩ ∧
      crowded.arguments = [.int 1, .int 2, .int 3, .int 4, .int 5, .int 6, .int 7] ∧
      Symbol.numbers 1 crowded.clausewise.symbols = [1, 2, 3, 4, 5, 6, 7] := by
  have built : crowded.IsBuilt := fun _ _ => nofun
  have fit : crowded.MarkersFit := by decide
  obtain ⟨rendered, numbers, -⟩ := placeholders_number_arguments crowded rfl built fit
  exact ⟨rfl, built, fit, ⟨_, _, rfl⟩, rendered, rfl, numbers⟩

end QueryBind
