/-
# QueryBind.Proofs.Query.Condition — the tree that a WHERE list spells

A `Condition` is a leaf or a group of conditions; `spellAll` writes the members of one level as a
flat WHERE list. The lists so written are the well-nested ones, and each is written in one way
(`Condition.spellAll_forest`, `Condition.forest_spellAll`). A tree is rendered level by level, the
first member of a level without joiner, with the number of the next argument handed from left to
right. The main statement, `conditions_render_as_tree`, says that the single pass over the flat
list writes that text, and that modifiers only ever build well-nested lists.
-/
import QueryBind.Proofs.Query.Nesting
import QueryBind.Proofs.Query.Numbering

namespace QueryBind

set_option autoImplicit false

open QueryBind.Symbol Predicate

/-- A condition of a WHERE list; its mark tells how it joins the one before it on its level. -/
inductive Condition where
  | leaf (test : Test) (clause : String) (args : List Value) (joinsByOr : Bool)
  | group (joinsByOr : Bool) (members : List Condition)

namespace Condition

def joinsByOr : Condition → Bool
  | .leaf _ _ _ byOr => byOr
  | .group byOr _ => byOr

def isGroup : Condition → Bool
  | .leaf .. => false
  | .group .. => true

/-! ## Spelling -/

mutual

/-- The predicates that spell a condition; a group's mark stands on its start. -/
def spell : Condition → List Predicate
  | .leaf test clause args byOr => [.leaf test clause args byOr]
  | .group byOr members => .groupStart byOr :: (spellAll members ++ [.groupEnd])

/-- The predicates that spell the members of a level. -/
def spellAll : List Condition → List Predicate
  | [] => []
  | c :: rest => c.spell ++ spellAll rest

end

/-- The conditions that predicates spell, one list for each open level, the innermost first. -/
def levels : List Predicate → List (List Condition)
  | [] => [[]]
  | .leaf test clause args byOr :: rest =>
      (levels rest).modifyHead (.leaf test clause args byOr :: ·)
  | .groupStart byOr :: rest =>
      match levels rest with
      | members :: level :: outer => (.group byOr members :: level) :: outer
      | unclosed => unclosed
  | .groupEnd :: rest => [] :: levels rest

/-- The members of the outermost level that predicates spell. -/
def forest (predicates : List Predicate) : List Condition := (levels predicates).headD []

/-- The predicates that spell the conditions of open levels. -/
def spellLevels : List (List Condition) → List Predicate
  | [] => []
  | [members] => spellAll members
  | members :: outer => spellAll members ++ .groupEnd :: spellLevels outer

theorem spellLevels_levels {depth : Nat} {predicates : List Predicate}
    (nested : nesting depth predicates = some 0) :
    (levels predicates).length = depth + 1 ∧ spellLevels (levels predicates) = predicates := by
  fun_induction nesting depth predicates with
  | case1 depth =>
      cases nested
      exact ⟨rfl, rfl⟩
  | case2 depth test clause args byOr rest ih =>
      obtain ⟨count, spelled⟩ := ih nested
      obtain ⟨members, outer, same⟩ := List.exists_cons_of_length_eq_add_one count
      simp only [levels]
      rw [same] at count spelled ⊢
      cases outer with
      | nil => exact ⟨count, by simpa [spellLevels, spellAll, spell] using spelled⟩
      | cons level outer => exact ⟨count, by simpa [spellLevels, spellAll, spell] using spelled⟩
  | case3 depth byOr rest ih =>
      obtain ⟨count, spelled⟩ := ih nested
      obtain ⟨members, outer, same⟩ := List.exists_cons_of_length_eq_add_one count
      rw [same] at count spelled
      have inner : outer.length = depth + 1 := by simpa using count
      obtain ⟨level, outer, rfl⟩ := List.exists_cons_of_length_eq_add_one inner
      simp only [levels, same]
      cases outer with
      | nil => exact ⟨inner, by simpa [spellLevels, spellAll, spell] using spelled⟩
      | cons next outer => exact ⟨inner, by simpa [spellLevels, spellAll, spell] using spelled⟩
  | case4 => cases nested
  | case5 depth rest ih =>
      obtain ⟨count, spelled⟩ := ih nested
      obtain ⟨members, outer, same⟩ := List.exists_cons_of_length_eq_add_one count
      simp only [levels]
      rw [same] at count spelled ⊢
      exact ⟨by simpa using count, by simpa [spellLevels, spellAll] using spelled⟩

/-- A well-nested list is spelled by its forest. -/
theorem spellAll_forest {predicates : List Predicate} (nested : WellNested predicates) :
    spellAll (forest predicates) = predicates := by
  obtain ⟨count, spelled⟩ := spellLevels_levels nested
  obtain ⟨members, same⟩ : ∃ members, levels predicates = [members] :=
    List.length_eq_one_iff.1 count
  rw [same] at spelled
  rw [forest, same]
  exact spelled

theorem levels_ne_nil (predicates : List Predicate) : levels predicates ≠ [] := by
  fun_induction levels predicates with
  | case1 => exact List.cons_ne_nil _ _
  | case2 test clause args byOr rest ih => simpa using ih
  | case3 byOr rest members level outer same ih => exact List.cons_ne_nil _ _
  | case4 byOr rest unclosed ih => exact ih
  | case5 rest ih => exact List.cons_ne_nil _ _

mutual

theorem levels_spell : ∀ (c : Condition) (rest : List Predicate),
    levels (c.spell ++ rest) = (levels rest).modifyHead (c :: ·)
  | .leaf .., _ => rfl
  | .group byOr members, rest => by
      obtain ⟨level, outer, same⟩ := List.exists_cons_of_ne_nil (levels_ne_nil rest)
      have inner : levels (spellAll members ++ .groupEnd :: rest) = members :: level :: outer := by
        simp [levels_spellAll members, levels, same]
      simp [spell, levels, inner, same]

theorem levels_spellAll : ∀ (members : List Condition) (rest : List Predicate),
    levels (spellAll members ++ rest) = (levels rest).modifyHead (members ++ ·)
  | [], rest => by
      cases same : levels rest with
      | nil => exact absurd same (levels_ne_nil rest)
      | cons level outer => simp [spellAll, same]
  | c :: others, rest => by
      rw [spellAll, List.append_assoc, levels_spell c, levels_spellAll others,
        List.modifyHead_modifyHead]
      rfl

end

/-- Two forests spell different lists. -/
theorem forest_spellAll (members : List Condition) : forest (spellAll members) = members := by
  have spelled := levels_spellAll members []
  rw [List.append_nil] at spelled
  simp [forest, spelled, levels]

/-! ## Text -/

mutual

/-- The arguments of a condition, leaf by leaf. -/
def args : Condition → List Value
  | .leaf _ _ args _ => args
  | .group _ members => argsOfAll members

def argsOfAll : List Condition → List Value
  | [] => []
  | c :: rest => c.args ++ argsOfAll rest

end

/-- The text of a leaf whose first argument has number `start`. Membership in an empty list is a
constant; any other leaf is its clause, between parentheses if it is to be `wrapped`. -/
def leafText (numbered wrapped : Bool) (start : Nat) (test : Test) (clause : String)
    (args : List Value) : List Char :=
  let symbols :=
    if test = .plain then Marker.read clause.toList
    else Membership.clauseSymbols clause.toList args.length
  if test = .among ∧ args.isEmpty then "(1=0)".toList
  else if test = .notAmong ∧ args.isEmpty then "(1=1)".toList
  else if wrapped then '(' :: render numbered start symbols ++ [')']
  else render numbered start symbols

mutual

/-- The text of a condition, without its joiner, whose first argument has number `start`. -/
def text (numbered wrapped : Bool) (start : Nat) : Condition → List Char
  | .leaf test clause args _ => leafText numbered wrapped start test clause args
  | .group _ members => '(' :: (levelText numbered wrapped start members ++ [')'])

/-- The members of a level: the first one has no joiner. -/
def levelText (numbered wrapped : Bool) (start : Nat) : List Condition → List Char
  | [] => []
  | first :: rest =>
      first.text numbered wrapped start ++
        othersText numbered wrapped (start + first.args.length) rest

/-- The other members of a level, each after its joiner. -/
def othersText (numbered wrapped : Bool) (start : Nat) : List Condition → List Char
  | [] => []
  | c :: rest =>
      joiner c.joinsByOr ++ c.text numbered wrapped start ++
        othersText numbered wrapped (start + c.args.length) rest

end

/-- The text of the outermost level; leaves are wrapped when there is no group at all. -/
def forestText (numbered : Bool) (start : Nat) (members : List Condition) : List Char :=
  levelText numbered (!members.any isGroup) start members

end Condition

/-! ## The flat pass -/

theorem Fragment.render_append (numbered : Bool) (start : Nat) (a b : Fragment) :
    Symbol.render numbered start (a ++ b).symbols =
      Symbol.render numbered start a.symbols ++
        Symbol.render numbered (start + a.args.length) b.symbols := by
  rw [append_symbols, Symbol.render_append, render_map_shift]

namespace Condition

theorem render_leafFragment (numbered wrapped : Bool) (start : Nat) (test : Test) (clause : String)
    (args : List Value) :
    render numbered start (leafFragment wrapped test clause args).symbols =
      leafText numbered wrapped start test clause args := by
  cases test <;> cases args <;> cases wrapped <;>
    simp [leafFragment, leafText, Fragment.ofText, Fragment.ofClause]

/-- After the members of a level no joiner is due, since the level or the list ends. -/
def EndsLevel (wrapped : Bool) (rest : List Predicate) : Prop :=
  fragmentFrom wrapped false rest = fragmentFrom wrapped true rest

section Pass

variable (numbered wrapped : Bool)

mutual

/-- The pass over the predicates of one condition. -/
theorem render_spell : ∀ (c : Condition) (joined : Bool) (start : Nat) (rest : List Predicate),
    render numbered start (fragmentFrom wrapped joined (c.spell ++ rest)).symbols =
      (if joined then joiner c.joinsByOr else []) ++ c.text numbered wrapped start ++
        render numbered (start + c.args.length) (fragmentFrom wrapped true rest).symbols
  | .leaf test clause args byOr, joined, start, rest => by
      simp only [spell, List.singleton_append, fragmentFrom, Fragment.render_append,
        render_leafFragment, Fragment.append_args, args_leafFragment]
      simp [Fragment.ofText, joinsByOr, text, Condition.args]
  | .group byOr members, joined, start, rest => by
      have level := render_level members start (.groupEnd :: rest) rfl
      simp only [spell, List.cons_append, List.append_assoc, List.nil_append, fragmentFrom,
        Fragment.render_append, Fragment.args_ofText, List.length_nil, Nat.add_zero] at level ⊢
      rw [level]
      simp [Fragment.ofText, joinsByOr, text, Condition.args]

/-- The pass over the members of a level after the first. -/
theorem render_others : ∀ (members : List Condition) (start : Nat) (rest : List Predicate),
    render numbered start (fragmentFrom wrapped true (spellAll members ++ rest)).symbols =
      othersText numbered wrapped start members ++
        render numbered (start + (argsOfAll members).length)
          (fragmentFrom wrapped true rest).symbols
  | [], start, rest => rfl
  | c :: others, start, rest => by
      rw [spellAll, List.append_assoc, render_spell c, render_others others]
      simp [othersText, argsOfAll, Nat.add_assoc]

/-- The pass over a whole level, up to its end. -/
theorem render_level : ∀ (members : List Condition) (start : Nat) (rest : List Predicate),
    EndsLevel wrapped rest →
    render numbered start (fragmentFrom wrapped false (spellAll members ++ rest)).symbols =
      levelText numbered wrapped start members ++
        render numbered (start + (argsOfAll members).length)
          (fragmentFrom wrapped true rest).symbols
  | [], start, rest, ends => congrArg (fun f => render numbered start f.symbols) ends
  | c :: others, start, rest, _ => by
      rw [spellAll, List.append_assoc, render_spell c, render_others others]
      simp [levelText, argsOfAll, Nat.add_assoc]

end

end Pass

/-! ## Rendering a WHERE list -/

mutual

theorem args_spell : ∀ c : Condition, c.spell.flatMap Predicate.args = c.args
  | .leaf .. => by simp [spell, Predicate.args, Condition.args]
  | .group _ members => by
      simp [spell, Predicate.args, Condition.args, args_spellAll members]

theorem args_spellAll : ∀ members : List Condition,
    (spellAll members).flatMap Predicate.args = argsOfAll members
  | [] => rfl
  | c :: rest => by simp [spellAll, argsOfAll, args_spell c, args_spellAll rest]

end

theorem any_isGroupEdge_spellAll (members : List Condition) :
    (spellAll members).any isGroupEdge = members.any isGroup := by
  induction members with
  | nil => rfl
  | cons c rest ih =>
      cases c with
      | leaf test clause args byOr => simpa [spellAll, spell, isGroupEdge, isGroup] using ih
      | group byOr inner => simp [spellAll, spell, isGroupEdge, isGroup]

theorem render_listFragment (numbered : Bool) (start : Nat) (members : List Condition) :
    render numbered start (listFragment (spellAll members)).symbols =
      forestText numbered start members := by
  have pass := render_level numbered (!members.any isGroup) members start [] rfl
  rw [List.append_nil] at pass
  rw [listFragment, any_isGroupEdge_spellAll, pass, forestText]
  exact List.append_nil _

end Condition

/-- **The WHERE list is rendered as the tree it spells.** A well-nested list spells exactly one
forest, and the single pass over the list writes the forest's text and arguments, whatever the
number of the first argument. Modifiers, nested to any depth, give a new query a well-nested
list. -/
theorem Query.conditions_render_as_tree :
    (∀ predicates, WellNested predicates →
      ∃ members, (∀ others, Condition.spellAll others = predicates ↔ others = members) ∧
        ∀ (d : Dialect) (start : Nat),
          Symbol.render d.numbered start ((Section.conditions predicates).fragment d).symbols =
            " WHERE ".toList ++ Condition.forestText d.numbered start members ∧
          ((Section.conditions predicates).fragment d).args = Condition.argsOfAll members) ∧
      ∀ (d : Dialect) (mods : List Mod), WellNested ((Query.empty d).modify mods).conditions := by
  refine ⟨fun predicates nested => ?_,
    fun d mods => wellNested_modify (q := Query.empty d) rfl mods⟩
  refine ⟨Condition.forest predicates, fun others => ?_, fun d start => ?_⟩
  · constructor
    · rintro rfl
      exact (Condition.forest_spellAll others).symm
    · rintro rfl
      exact Condition.spellAll_forest nested
  · have spelled := Condition.spellAll_forest nested
    have text := Condition.render_listFragment d.numbered start (Condition.forest predicates)
    have args := Condition.args_spellAll (Condition.forest predicates)
    rw [spelled] at text args
    constructor
    · rw [Section.fragment, Fragment.render_append, Fragment.ofText, render_ofText]
      exact congrArg _ text
    · rw [Section.args_fragment, Section.args, args]

/-- Two groups that open together, the inner one around an empty membership list. -/
def Query.nestedConditions : List Predicate :=
  [.leaf .plain "a = ?" [.int 1] true, .groupStart true, .groupStart true,
    .leaf .among "c IN ?" [] false, .groupEnd, .leaf .plain "b = ?" [.int 2] false, .groupEnd]

theorem Query.nestedConditions_text :
    WellNested nestedConditions ∧
      ∃ members, (∀ others, Condition.spellAll others = nestedConditions ↔ others = members) ∧
        Symbol.render true 1 ((Section.conditions nestedConditions).fragment .postgres).symbols =
          " WHERE ".toList ++ Condition.forestText true 1 members ∧
        Condition.forestText true 1 members = "a = $1 OR (((1=0)) AND b = $2)".toList := by
  have nested : WellNested nestedConditions := by decide
  obtain ⟨members, spelled, rendered⟩ := conditions_render_as_tree.1 nestedConditions nested
  refine ⟨nested, members, spelled, (rendered .postgres 1).1, ?_⟩
  rw [← (spelled (Condition.forest nestedConditions)).1 rfl]
  decide

end QueryBind
