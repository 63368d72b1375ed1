/-
# QueryBind.Proofs.Query.Escapes — where the backslash of an escape is dropped

A clause without a marker is read as its text without the backslashes of its escapes (`unescaped`),
and so is what stands before the first marker of a clause whose list is expanded. What stands behind
the list is taken as it is (`Marker.FirstMarker.render_expandFrom`). So an expanded clause has the
text in which all escapes are undone just when no escape stands behind its list
(`Marker.withList_unescaped_iff`).

A test with IN expands the part of its clause that is right of the keyword and reads the left side
like any clause (`Membership.clauseSymbols_eq_expansion`), so the same holds of tests:
`Predicate.escapes_undone_before_list` has both.
-/
import QueryBind.Proofs.Query.Expansion

namespace QueryBind

set_option autoImplicit false

open QueryBind.Symbol Text

/-! ## Escapes -/

namespace Marker

/-- The text without the backslash of each escape. -/
def unescaped : List Char → List Char
  | [] => []
  | '\\' :: '?' :: rest => '?' :: unescaped rest
  | c :: rest => c :: unescaped rest

/-- The text has a backslash with a question mark right behind it. -/
def HasEscape (s : List Char) : Prop := ['\\', '?'] <:+: s

instance (s : List Char) : Decidable (HasEscape s) :=
  inferInstanceAs (Decidable (['\\', '?'] <:+: s))

/-- Only escapes are changed. -/
theorem unescaped_eq_self_iff (s : List Char) : unescaped s = s ↔ ¬ HasEscape s := by
  fun_induction unescaped s with
  | case1 => simp [HasEscape]
  | case2 rest _ =>
      have starts : HasEscape ('\\' :: '?' :: rest) := (List.prefix_append ['\\', '?'] rest).isInfix
      simp [starts]
  | case3 c rest noEscape ih =>
      have inside : ¬ ['\\', '?'] <+: c :: rest := by
        rintro ⟨tail, same⟩
        cases same
        exact noEscape tail rfl rfl
      simp [HasEscape, List.infix_cons_iff, inside, ih]

/-- A text without a marker is read as itself, its escapes undone. -/
theorem render_readFrom_of_unmarked {s : List Char} (unmarked : hasMarker s = false)
    (numbered : Bool) (start next : Nat) :
    Symbol.render numbered start (readFrom next s) = unescaped s := by
  fun_induction hasMarker s with
  | case1 => rfl
  | case2 rest ih => rw [readFrom, unescaped, render_char, ih unmarked]
  | case3 => cases unmarked
  | case4 c rest noEscape notMarker ih =>
      rw [readFrom_char notMarker (seamless_of_noEscape noEscape), render_char, ih unmarked,
        unescaped]
      exact noEscape

/-! ## Expanded clauses -/

/-- The text of an expanded clause: the list stands where the first marker stood. -/
def withList (before list after : List Char) : List Char :=
  unescaped before ++ '(' :: (list ++ ')' :: after)

/-- The escapes behind the list are undone as well just when there are none. -/
theorem withList_unescaped_iff (before list after : List Char) :
    withList before list after = withList before list (unescaped after) ↔ ¬ HasEscape after := by
  rw [← unescaped_eq_self_iff, eq_comm]
  simp [withList]

/-- Without a marker there is no list to write, and a clause is read like any other. -/
theorem expandFrom_of_unmarked {clause : List Char} (unmarked : hasMarker clause = false)
    (first group total next : Nat) : expandFrom first group total clause = readFrom next clause := by
  fun_induction hasMarker clause with
  | case1 => rfl
  | case2 rest ih => rw [expandFrom, readFrom, ih unmarked]
  | case3 => cases unmarked
  | case4 c rest noEscape notMarker ih =>
      have seamless : Seamless [c] rest := seamless_of_noEscape noEscape
      rw [expandFrom_char notMarker seamless, readFrom_char notMarker seamless, ih unmarked]

theorem render_expandFrom_of_unmarked {clause : List Char} (unmarked : hasMarker clause = false)
    (numbered : Bool) (start first group total : Nat) :
    Symbol.render numbered start (expandFrom first group total clause) = unescaped clause := by
  rw [expandFrom_of_unmarked unmarked first group total 0, render_readFrom_of_unmarked unmarked]

theorem FirstMarker.render_expandFrom {clause before after : List Char}
    (marker : FirstMarker clause before after) (numbered : Bool) (start first group total : Nat) :
    Symbol.render numbered start (expandFrom first group total clause) =
      withList before (Symbol.render numbered start (placeList first total group)) after := by
  have head : Symbol.render numbered start (read before) = unescaped before :=
    render_readFrom_of_unmarked marker.unmarked numbered start 0
  rw [marker.expandFrom_eq, render_append, render_append, render_char, render_char, render_ofText,
    head, withList, List.append_assoc, List.cons_append]

end Marker

/-! ## Tests -/

/-- How the list of a test is written: what stands before the part that is expanded, that part, the
first argument of the list, the width of its groups and the number of its arguments. -/
structure Membership.Expansion where
  lead : List Symbol
  part : List Char
  first : Nat
  group : Nat
  total : Nat

namespace Membership

/-- The expansion of a clause with `total` arguments: on the right of its keyword, if it has one. -/
def expansion (clause : List Char) (total : Nat) : Expansion :=
  match ofClause? clause with
  | some m =>
      { lead := Marker.read (trim m.left) ++ ofText (keywordText m.negated)
        part := trim m.right
        first := Marker.count (trim m.left)
        group := groupSize (trim m.left)
        total := m.listed total }
  | none => { lead := [], part := clause, first := 0, group := 1, total }

/-- What is written for the part that is expanded. -/
def Expansion.symbols (e : Expansion) : List Symbol :=
  Marker.expandFrom e.first e.group e.total e.part

/-- The text of the clause, when its part is `before`, a marker and `after`. -/
def Expansion.text (e : Expansion) (numbered : Bool) (start : Nat) (before after : List Char) :
    List Char :=
  render numbered start e.lead ++
    Marker.withList before (render numbered start (Marker.placeList e.first e.total e.group)) after

theorem clauseSymbols_eq_expansion (clause : List Char) (total : Nat) :
    clauseSymbols clause total =
      (expansion clause total).lead ++ (expansion clause total).symbols := by
  unfold clauseSymbols expansion
  cases ofClause? clause with
  | some m => rfl
  | none => rfl

end Membership

namespace Predicate

open QueryBind.Membership

/-- The text, between parentheses if it is to be wrapped. -/
def wrap (wrapped : Bool) (text : List Char) : List Char :=
  (if wrapped then ['('] else []) ++ text ++ (if wrapped then [')'] else [])

theorem wrap_inj (wrapped : Bool) {a b : List Char} : wrap wrapped a = wrap wrapped b ↔ a = b := by
  simp [wrap]

theorem isInfix_wrap_text (wrapped : Bool) (e : Expansion) (numbered : Bool) (start : Nat)
    (before after : List Char) : after <:+: wrap wrapped (e.text numbered start before after) := by
  have inside : after <:+: e.text numbered start before after :=
    ⟨render numbered start e.lead ++ Marker.unescaped before ++ '(' ::
        render numbered start (Marker.placeList e.first e.total e.group) ++ [')'], [],
      by simp [Expansion.text, Marker.withList]⟩
  exact inside.trans ⟨_, _, rfl⟩

/-- **Escapes are undone up to the list.** A clause without a marker is expanded to itself, all its
escapes undone, and takes no argument. In any other clause the list takes the place of the first
marker; the escapes before it are undone and what is behind it is kept, escapes as well, so all
escapes of the clause are undone just when there is none behind its list. The same holds of the part
of a test's clause that has the list; what stands before that part is read like any clause. -/
theorem escapes_undone_before_list (numbered : Bool) (start : Nat) :
    (∀ (first group total : Nat) (clause : List Char), Marker.hasMarker clause = false →
      render numbered start (Marker.expandFrom first group total clause) =
          Marker.unescaped clause ∧
        Marker.expandCount total clause = 0) ∧
      (∀ (first group total : Nat) (clause : List Char), Marker.hasMarker clause = true →
        Marker.expandCount total clause = total ∧
          ∃ before list after, Marker.FirstMarker clause before after ∧
            list = render numbered start (Marker.placeList first total group) ∧
            render numbered start (Marker.expandFrom first group total clause) =
              Marker.withList before list after ∧
            (render numbered start (Marker.expandFrom first group total clause) =
                Marker.withList before list (Marker.unescaped after) ↔
              ¬ Marker.HasEscape after)) ∧
      ∀ (wrapped : Bool) (test : Test) (clause : String) (args : List Value),
        test ≠ .plain → args ≠ [] →
          let e := expansion clause.toList args.length
          let text := render numbered start (leafFragment wrapped test clause args).symbols
          (Marker.hasMarker e.part = false →
            text = wrap wrapped (render numbered start e.lead ++ Marker.unescaped e.part)) ∧
          ∀ before after, Marker.FirstMarker e.part before after →
            text = wrap wrapped (e.text numbered start before after) ∧
              (text = wrap wrapped (e.text numbered start before (Marker.unescaped after)) ↔
                ¬ Marker.HasEscape after) ∧
              (Marker.HasEscape after → Marker.HasEscape text) := by
  refine ⟨fun first group total clause unmarked => ?_, fun first group total clause marked => ?_,
    fun wrapped test clause args member given => ?_⟩
  · exact ⟨Marker.render_expandFrom_of_unmarked unmarked .., by simp [Marker.expandCount, unmarked]⟩
  · obtain ⟨before, after, marker⟩ := Marker.exists_firstMarker marked
    have text := marker.render_expandFrom numbered start first group total
    refine ⟨by simp [Marker.expandCount, marked], before, _, after, marker, rfl, text, ?_⟩
    rw [text, Marker.withList_unescaped_iff]
  · intro e text
    have whole : text = wrap wrapped (render numbered start (e.lead ++ e.symbols)) := by
      rw [← clauseSymbols_eq_expansion]
      exact render_leafFragment_member member given numbered wrapped start clause
    rw [render_append, Expansion.symbols] at whole
    refine ⟨fun unmarked => ?_, fun before after marker => ?_⟩
    · rw [whole, Marker.render_expandFrom_of_unmarked unmarked]
    · rw [marker.render_expandFrom] at whole
      have kept : after <:+: text := by
        rw [whole]
        exact isInfix_wrap_text wrapped e numbered start before after
      refine ⟨whole, ?_, fun escape => escape.trans kept⟩
      rw [whole, wrap_inj, Expansion.text, List.append_cancel_left_eq,
        Marker.withList_unescaped_iff]

/-- Escapes left of the keyword and between it and the list, which takes two of the values. -/
theorem operatorTest_escapes_undone :
    ∃ e text,
      e = expansion "a \\? ? and k not in (k\\?, ?)".toList 3 ∧
      text = render true 3 (leafFragment true .notAmong "a \\? ? and k not in (k\\?, ?)"
        [.int 1, .int 2, .int 3]).symbols ∧
      Marker.FirstMarker e.part "(k\\?, ".toList ")".toList ∧
      ¬ Marker.HasEscape ")".toList ∧
      text = "(a ? $3 and k NOT IN (k?, ($4,$5)))".toList := by
  have part : (expansion "a \\? ? and k not in (k\\?, ?)".toList 3).part = "(k\\?, ?)".toList := by
    decide
  have marker : Marker.FirstMarker (expansion "a \\? ? and k not in (k\\?, ?)".toList 3).part
      "(k\\?, ".toList ")".toList :=
    ⟨part, by simp [Marker.Seamless], by decide⟩
  have member : Test.notAmong ≠ .plain := by decide
  have given : [Value.int 1, .int 2, .int 3] ≠ [] := List.cons_ne_nil _ _
  obtain ⟨-, -, tests⟩ := escapes_undone_before_list true 3
  obtain ⟨-, marked⟩ := tests true .notAmong "a \\? ? and k not in (k\\?, ?)" _ member given
  obtain ⟨written, -, -⟩ := marked _ _ marker
  exact ⟨_, _, rfl, rfl, marker, by decide, written.trans (by decide)⟩

/-- A JSON operator on both sides of the list. -/
def operatorTest : Query :=
  (Query.empty .postgres).applyAll
    [.appendFrom "t", .appendLeaf .among "a \\? 'j' and id IN ? and b \\? 'k'" [.int 1, .int 2]]

/-- The second operator keeps its backslash, which a clause without a list does not. -/
theorem operatorTest_keeps_escape :
    render true 1 (Marker.expandFrom 0 1 2 "IN ? AND data \\? 'k'".toList) =
        "IN ($1,$2) AND data \\? 'k'".toList ∧
      render true 1 (Marker.expandFrom 0 1 2 "IN ? AND data \\? 'k'".toList) ≠
        "IN ($1,$2) AND data ? 'k'".toList ∧
      render true 1 (Marker.read " AND data \\? 'k'".toList) = " AND data ? 'k'".toList ∧
      operatorTest.render.sql =
        "SELECT * FROM \"t\" WHERE (a ? 'j' and id IN ($1,$2) and b \\? 'k');" := by
  refine ⟨by decide, by decide, by decide, by decide⟩

end Predicate

end QueryBind
