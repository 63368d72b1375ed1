/-
# QueryBind.Proofs.Query.Interleaving — modifiers of different clauses in any order

Every edit writes one part of a query (`Edit.part`), and what it makes of that part does not depend
on the other parts, but for the edit that drops soft-delete conditions, which reads the dialect
(`Edit.isLocal`). So:

* an edit of another part leaves a part as it is (`content_apply_of_ne`), and local edits make the
  same of a part in two queries that have the same there (`content_apply_congr`);
* a part after a list of edits is what the edits of that part alone make of it
  (`content_applyAll_filter`);
* two lists that have the same edits of every part, each in the same order, make the same of a
  query (`applyAll_eq_of_filter`).

A modifier is of one part when all its edits are (`Mod.part?`). That leaves out alternatives and groups
with something else in them than predicates. `Mod.clauses_commute` says that however the modifiers of
different parts are interleaved, the query is the same, and so is the statement that is built.
-/
import QueryBind.Proofs.Query.Appending
import QueryBind.Proofs.Query.Freshness

namespace QueryBind

set_option autoImplicit false

/-! ## Parts of a query -/

namespace Query

/-- The parts of a query that edits write. -/
inductive Part where
  | dialect
  | statement
  | columns
  | counting
  | tables
  | joins
  | conditions
  | grouping
  | ordering
  | having
  | ctes
  | limit
  | offset
  | lock
  | distinct
  | comment
  | loads
  | bindMode
  deriving DecidableEq, Repr

/-- What a part holds. -/
def Part.Content : Part → Type
  | .dialect => Dialect
  | .statement => Statement
  | .columns | .tables | .grouping | .loads => List String
  | .counting => Bool
  | .joins => List Join
  | .conditions => List Predicate
  | .ordering | .having | .ctes => List Clause
  | .limit => Option Nat
  | .offset => Nat
  | .lock | .distinct | .comment => Option String
  | .bindMode => BindMode

/-- A part of a query. -/
def content (q : Query) : (part : Part) → part.Content
  | .dialect => q.dialect
  | .statement => q.statement
  | .columns => q.columns
  | .counting => q.counting
  | .tables => q.tables
  | .joins => q.joins
  | .conditions => q.conditions
  | .grouping => q.grouping
  | .ordering => q.ordering
  | .having => q.having
  | .ctes => q.ctes
  | .limit => q.limit
  | .offset => q.offset
  | .lock => q.lock
  | .distinct => q.distinct
  | .comment => q.comment
  | .loads => q.loads
  | .bindMode => q.bindMode

/-- A query is its parts. -/
theorem eq_of_content_eq {q q' : Query} (same : ∀ part, q.content part = q'.content part) :
    q = q' := by
  cases q
  cases q'
  rw [Query.mk.injEq]
  exact ⟨same .dialect, same .statement, same .columns, same .counting, same .tables, same .joins,
    same .conditions, same .grouping, same .ordering, same .having, same .ctes, same .limit,
    same .offset, same .lock, same .distinct, same .comment, same .loads, same .bindMode⟩

/-- The part that an edit writes. -/
def Edit.part : Edit → Part
  | .setDialect _ => .dialect
  | .setSql _ _ | .setArgs _ | .setDelete | .setUpdate _ => .statement
  | .setCount => .counting
  | .setSelect _ | .appendSelect _ => .columns
  | .setFrom _ | .appendFrom _ => .tables
  | .setDistinct _ => .distinct
  | .appendJoin _ _ _ => .joins
  | .appendWith _ _ => .ctes
  | .appendLeaf _ _ _ | .openGroup | .closeGroup | .orLast | .dropSoftDelete => .conditions
  | .appendGroupBy _ => .grouping
  | .appendOrderBy _ _ => .ordering
  | .appendHaving _ _ => .having
  | .setLimit _ => .limit
  | .setOffset _ => .offset
  | .setLock _ => .lock
  | .setComment _ => .comment
  | .setLoads _ | .appendLoad _ => .loads
  | .setBindMode _ => .bindMode

/-- The edit reads no other part than the one it writes. -/
def Edit.isLocal : Edit → Bool
  | .dropSoftDelete => false
  | _ => true

/-! ## Runs of edits -/

theorem content_apply_of_ne {e : Edit} {part : Part} (other : e.part ≠ part) (q : Query) :
    (q.apply e).content part = q.content part := by
  cases e <;> cases part <;> first | rfl | exact absurd rfl other

theorem content_apply_congr {e : Edit} (loc : e.isLocal = true) {q q' : Query} {part : Part}
    (same : q.content part = q'.content part) :
    (q.apply e).content part = (q'.apply e).content part := by
  by_cases own : e.part = part
  · subst own
    cases e with
    | setArgs args => exact congrArg (Statement.withArgs args) same
    | setDelete => exact congrArg Statement.toDelete same
    | setUpdate columns => exact congrArg (Statement.toUpdate columns) same
    | appendSelect columns => exact congrArg (fun list : List String => list ++ columns) same
    | appendFrom entry | appendGroupBy entry | appendLoad entry =>
        exact congrArg (fun list : List String => list ++ [entry]) same
    | appendJoin kind clause args =>
        exact congrArg (fun list : List Join => list ++ [⟨kind, clause, args⟩]) same
    | appendWith clause args | appendOrderBy clause args | appendHaving clause args =>
        exact congrArg (fun list : List Clause => list ++ [⟨clause, args⟩]) same
    | appendLeaf test clause args =>
        exact congrArg (fun list : List Predicate => list ++ [.leaf test clause args false]) same
    | openGroup => exact congrArg (fun list : List Predicate => list ++ [.groupStart false]) same
    | closeGroup => exact congrArg (fun list : List Predicate => list ++ [.groupEnd]) same
    | orLast => exact congrArg Predicate.marked same
    | dropSoftDelete => cases loc
    | _ => rfl
  · rw [content_apply_of_ne own, content_apply_of_ne own, same]

/-- The edits of other parts may be left out. -/
theorem content_applyAll_filter {edits : List Edit} (loc : ∀ e ∈ edits, e.isLocal = true)
    {q q' : Query} {part : Part} (same : q.content part = q'.content part) :
    (q.applyAll edits).content part =
      (q'.applyAll (edits.filter (·.part == part))).content part := by
  induction edits generalizing q q' with
  | nil => exact same
  | cons e rest ih =>
      obtain ⟨here, later⟩ := List.forall_mem_cons.mp loc
      by_cases own : e.part = part
      · rw [List.filter_cons_of_pos (by simpa using own)]
        exact ih later (content_apply_congr here same)
      · rw [List.filter_cons_of_neg (by simpa using own)]
        exact ih later ((content_apply_of_ne own q).trans same)

/-- Edits of different parts may be interleaved at will. -/
theorem applyAll_eq_of_filter {edits edits' : List Edit} (loc : ∀ e ∈ edits, e.isLocal = true)
    (loc' : ∀ e ∈ edits', e.isLocal = true)
    (same : ∀ part, edits.filter (·.part == part) = edits'.filter (·.part == part)) (q : Query) :
    q.applyAll edits = q.applyAll edits' := by
  refine eq_of_content_eq fun part => ?_
  rw [content_applyAll_filter loc rfl, same part, ← content_applyAll_filter loc' rfl]

end Query

/-! ## Modifiers -/

open Query

namespace Mod

mutual

/-- The modifier appends predicates alone: it is a predicate, an alternative of such modifiers or a
group of them, whose two ends it appends even when nothing is in it. -/
def isCondition : Mod → Bool
  | .leaf _ _ _ => true
  | .either mod => mod.isCondition
  | .group mods => areConditions mods
  | _ => false

def areConditions : List Mod → Bool
  | [] => true
  | mod :: rest => mod.isCondition && areConditions rest

end

/-- The part of a query that a modifier is about, if it is about one. -/
def part? : Mod → Option Part
  | .select _ => some .columns
  | .table _ => some .tables
  | .join _ _ _ => some .joins
  | .distinct _ => some .distinct
  | .cte _ _ => some .ctes
  | .groupBy _ => some .grouping
  | .orderBy _ _ => some .ordering
  | .having _ _ => some .having
  | .limit _ => some .limit
  | .offset _ => some .offset
  | .lock _ => some .lock
  | .comment _ => some .comment
  | .sql _ _ => some .statement
  | .load _ => some .loads
  | mod => if mod.isCondition then some .conditions else none

mutual

theorem part_of_isCondition : ∀ {m : Mod}, m.isCondition = true →
    ∀ e ∈ m.edits, e.part = .conditions ∧ e.isLocal = true
  | .leaf _ _ _, _ => by simp [edits, Edit.part, Edit.isLocal]
  | .either m, condition => by
      have inner : ∀ e ∈ m.edits, e.part = .conditions ∧ e.isLocal = true :=
        part_of_isCondition condition
      rw [edits]
      exact List.forall_mem_append.mpr ⟨inner, by simp [Edit.part, Edit.isLocal]⟩
  | .group mods, conditions => by
      have inner : ∀ e ∈ editsOfAll mods, e.part = .conditions ∧ e.isLocal = true :=
        part_of_areConditions conditions
      rw [edits]
      refine List.forall_mem_append.mpr ⟨List.forall_mem_cons.mpr ⟨⟨rfl, rfl⟩, inner⟩, ?_⟩
      simp [Edit.part, Edit.isLocal]

theorem part_of_areConditions : ∀ {mods : List Mod}, areConditions mods = true →
    ∀ e ∈ editsOfAll mods, e.part = .conditions ∧ e.isLocal = true
  | [], _ => by simp [editsOfAll]
  | m :: rest, conditions => by
      obtain ⟨here, later⟩ : m.isCondition = true ∧ areConditions rest = true := by
        simpa [areConditions] using conditions
      rw [editsOfAll]
      exact List.forall_mem_append.mpr ⟨part_of_isCondition here, part_of_areConditions later⟩

end

/-- A modifier about one part makes local edits of that part. -/
theorem part_of_part? {m : Mod} {part : Part} (sorted : m.part? = some part) :
    ∀ e ∈ m.edits, e.part = part ∧ e.isLocal = true := by
  have conditions (shape : (if m.isCondition then some Part.conditions else none) = some part) :
      ∀ e ∈ m.edits, e.part = part ∧ e.isLocal = true := by
    split at shape
    · rename_i condition
      cases shape
      exact part_of_isCondition condition
    · cases shape
  cases m with
  | leaf | either | group => exact conditions sorted
  | _ =>
      cases sorted
      simp [edits, Edit.part, Edit.isLocal]

section Sorted

variable {mods : List Mod} (sorted : ∀ m ∈ mods, m.part?.isSome = true)

include sorted

theorem isLocal_editsOfAll : ∀ e ∈ editsOfAll mods, e.isLocal = true := by
  induction mods with
  | nil => simp [editsOfAll]
  | cons m rest ih =>
      obtain ⟨here, later⟩ := List.forall_mem_cons.mp sorted
      obtain ⟨part, found⟩ := Option.isSome_iff_exists.mp here
      rw [editsOfAll]
      exact List.forall_mem_append.mpr ⟨fun e member => (part_of_part? found e member).2, ih later⟩

/-- The edits of a part are those of the modifiers about it. -/
theorem filter_part_editsOfAll (part : Part) :
    (editsOfAll mods).filter (·.part == part) =
      editsOfAll (mods.filter (·.part? == some part)) := by
  induction mods with
  | nil => rfl
  | cons m rest ih =>
      obtain ⟨here, later⟩ := List.forall_mem_cons.mp sorted
      obtain ⟨own, found⟩ := Option.isSome_iff_exists.mp here
      have edited : ∀ e ∈ m.edits, e.part = own := fun e member => (part_of_part? found e member).1
      rw [editsOfAll, List.filter_append, ih later]
      by_cases same : own = part
      · subst same
        have all : m.edits.filter (·.part == own) = m.edits :=
          List.filter_eq_self.mpr fun e member => by simp [edited e member]
        rw [all, List.filter_cons_of_pos (by simp [found]), editsOfAll]
      · have nothing : m.edits.filter (·.part == part) = [] :=
          List.filter_eq_nil_iff.mpr fun e member => by simp [edited e member, same]
        rw [nothing, List.filter_cons_of_neg (by simp [found, same]), List.nil_append]

end Sorted

/-- **Modifiers of different clauses commute.** Two lists of modifiers about one part each, which have
for every part the same modifiers about it in the same order, make the same query of any query. With
a remembered statement or without, the statement built afterwards is the same. -/
theorem clauses_commute {mods mods' : List Mod} (sorted : ∀ m ∈ mods, m.part?.isSome = true)
    (sorted' : ∀ m ∈ mods', m.part?.isSome = true)
    (same : ∀ part, mods.filter (·.part? == some part) = mods'.filter (·.part? == some part)) :
    (∀ q : Query, q.modify mods = q.modify mods') ∧
      ∀ m : Memo, m.Fresh →
        (Keeper.memo.effect m (.modify mods)).query =
            (Keeper.memo.effect m (.modify mods')).query ∧
          (Keeper.memo.effect m (.modify mods)).build.1 =
            (Keeper.memo.effect m (.modify mods')).build.1 := by
  have agree (q : Query) : q.modify mods = q.modify mods' := by
    refine applyAll_eq_of_filter (isLocal_editsOfAll sorted) (isLocal_editsOfAll sorted')
      (fun part => ?_) q
    rw [filter_part_editsOfAll sorted, filter_part_editsOfAll sorted', same part]
  refine ⟨agree, fun m fresh => ?_⟩
  obtain ⟨query, after⟩ := Keeper.effect_memo fresh (.modify mods)
  obtain ⟨query', after'⟩ := Keeper.effect_memo fresh (.modify mods')
  have queries := query.trans ((agree m.query).trans query'.symm)
  refine ⟨queries, ?_⟩
  rw [(Memo.build_of_fresh after).1, (Memo.build_of_fresh after').1, queries]

/-- Two interleavings, with a limit that is set twice and an alternative that marks a group. -/
theorem interleaved_statement :
    let a := Mod.all .plain "a = ?" [.int 1]
    let b := Mod.either (.group [.all .among "b IN ?" [.int 2, .int 3], .any .plain "c" []])
    let mods := [a, .limit 5, .load "Author", b, .table "t", .limit 7, .comment "x", .orderBy "d" []]
    let mods' := [.limit 5, .comment "x", a, .limit 7, .orderBy "d" [], b, .load "Author", .table "t"]
    (∀ m ∈ mods, m.part?.isSome = true) ∧ (∀ m ∈ mods', m.part?.isSome = true) ∧
      (∀ part, mods.filter (·.part? == some part) = mods'.filter (·.part? == some part)) ∧
      (Query.empty .postgres).modify mods = (Query.empty .postgres).modify mods' ∧
      ((Query.empty .postgres).modify mods').render.sql =
        "-- x\nSELECT * FROM \"t\" WHERE a = $1 OR (b IN ($2,$3) OR c) ORDER BY d LIMIT 7;" := by
  intro a b mods mods'
  have sorted : ∀ m ∈ mods, m.part?.isSome = true := by
    simp [mods, a, b, part?, isCondition, areConditions, Mod.all, Mod.any]
  have sorted' : ∀ m ∈ mods', m.part?.isSome = true := by
    simp [mods', a, b, part?, isCondition, areConditions, Mod.all, Mod.any]
  have same (part : Part) :
      mods.filter (·.part? == some part) = mods'.filter (·.part? == some part) := by
    cases part <;> rfl
  exact ⟨sorted, sorted', same, (clauses_commute sorted sorted' same).1 _, by decide +kernel⟩

end Mod

end QueryBind
