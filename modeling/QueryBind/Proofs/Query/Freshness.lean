/-
# QueryBind.Proofs.Query.Freshness — a remembered statement is the query's

A `Keeper` is a way to keep a query through a history of edits, modifiers, copies and builds: as it
is (`Keeper.plain`), or with the statement that was built last (`Keeper.memo`). A history is a
list of `Step`s on a shelf of queries, each called by its place; a copy is put at the end of the
shelf. An edit that does not forget the remembered statement does not change it either
(`render_apply_of_keeps`), so every step keeps a fresh memo fresh and does to the queries what it
does without memory (`step_memo`). The main statement, `build_always_fresh`, says this of whole
histories.
-/
import QueryBind.Proofs.Data.List
import QueryBind.Query.Memo

namespace QueryBind

set_option autoImplicit false

namespace Query

/-! ## Edits and the statement -/

/-- There is nothing to mark in an empty WHERE list. -/
theorem apply_orLast_of_nil {q : Query} (empty : q.conditions = []) : q.apply .orLast = q := by
  rw [apply, empty]
  show { q with conditions := [] } = q
  rw [← empty]

/-- What is not forgotten is still right: the renderer does not read what such an edit changes. -/
theorem render_apply_of_keeps {q : Query} {e : Edit} (keeps : e.forgets q = false) :
    (q.apply e).render = q.render := by
  cases e with
  | setLoads paths => rfl
  | appendLoad path => rfl
  | setBindMode mode => rfl
  | orLast =>
      have empty : q.conditions = [] := by simpa [Edit.forgets] using keeps
      rw [apply_orLast_of_nil empty]
  | _ => cases keeps

namespace Memo

theorem fresh_ofQuery (q : Query) : (ofQuery q).Fresh := fun _ => nofun

theorem fresh_apply {m : Memo} (fresh : m.Fresh) (e : Edit) : (m.apply e).Fresh := by
  intro rendered remembered
  cases forgets : e.forgets m.query with
  | true => simp [apply, forgets] at remembered
  | false =>
      have before : m.built = some rendered := by simpa [apply, forgets] using remembered
      exact (fresh rendered before).trans (render_apply_of_keeps forgets).symm

theorem fresh_applyAll {m : Memo} (fresh : m.Fresh) (edits : List Edit) :
    (m.applyAll edits).Fresh := by
  induction edits generalizing m with
  | nil => exact fresh
  | cons e rest ih => exact ih (fresh_apply fresh e)

theorem query_applyAll (m : Memo) (edits : List Edit) :
    (m.applyAll edits).query = m.query.applyAll edits := by
  induction edits generalizing m with
  | nil => rfl
  | cons e rest ih => exact ih (m.apply e)

/-- A build of a fresh memo answers the query's statement, changes nothing of the query, and leaves
the memo fresh. -/
theorem build_of_fresh {m : Memo} (fresh : m.Fresh) :
    m.build.1 = m.query.render ∧ m.build.2.query = m.query ∧ m.build.2.Fresh := by
  unfold build
  cases remembered : m.built with
  | none => exact ⟨rfl, rfl, fun rendered same => (Option.some.inj same).symm⟩
  | some rendered => exact ⟨fresh rendered remembered, rfl, fresh⟩

end Memo

/-! ## Histories -/

/-- What can be done with a query. -/
inductive Use where
  | edit (e : Edit)
  | modify (mods : List Mod)
  | clone
  | build

def Use.isBuild : Use → Bool
  | .build => true
  | _ => false

/-- A use of one of several queries, which is called by its place among them. -/
structure Step where
  subject : Nat
  use : Use

/-- A way to keep a query: what an edit makes of it, a copy of it, and its statement together with
what is kept from then on. -/
structure Keeper (κ : Type) where
  apply : κ → Edit → κ
  clone : κ → κ
  build : κ → Rendered × κ

namespace Keeper

/-- A query that is rendered at each build. -/
def plain : Keeper Query := ⟨Query.apply, id, fun q => (q.render, q)⟩

/-- A query that remembers its statement. -/
def memo : Keeper Memo := ⟨Memo.apply, Memo.clone, Memo.build⟩

variable {κ : Type} (k : Keeper κ)

/-- What a use makes of its query. -/
def effect (x : κ) : Use → κ
  | .edit e => k.apply x e
  | .modify mods => (Mod.editsOfAll mods).foldl k.apply x
  | .clone => x
  | .build => (k.build x).2

/-- What a use answers. -/
def answer (x : κ) : Use → Option Rendered
  | .build => some (k.build x).1
  | _ => none

/-- The queries that a use adds. -/
def copies (x : κ) : Use → List κ
  | .clone => [k.clone x]
  | _ => []

/-- One step on a shelf of queries: its answer, and the shelf after it. -/
def step (s : Step) (shelf : List κ) : Option Rendered × List κ :=
  (shelf[s.subject]?.bind (k.answer · s.use),
    shelf.modify s.subject (k.effect · s.use) ++
      (shelf[s.subject]?.map (k.copies · s.use)).getD [])

/-- The answers to the steps of a history, and the shelf after them. -/
def run : List Step → List κ → List (Option Rendered) × List κ
  | [], shelf => ([], shelf)
  | s :: rest, shelf =>
      let (answers, after) := run rest (k.step s shelf).2
      ((k.step s shelf).1 :: answers, after)

/-- What the steps on the query at a place make of it. -/
def own (place : Nat) (steps : List Step) (x : κ) : κ :=
  (steps.filter (·.subject == place)).foldl (fun x s => k.effect x s.use) x

/-- A query becomes what its own steps make of it; the steps on the others do not matter. -/
theorem getElem?_run (steps : List Step) {shelf : List κ} {i : Nat} (inside : i < shelf.length) :
    (k.run steps shelf).2[i]? = shelf[i]?.map (k.own i steps) := by
  induction steps generalizing shelf with
  | nil => exact (congrFun Option.map_id _).symm
  | cons s rest ih =>
      have kept : i < (shelf.modify s.subject (k.effect · s.use)).length := by
        rwa [List.length_modify]
      have step : (k.step s shelf).2[i]? =
          shelf[i]?.map fun x => if s.subject = i then k.effect x s.use else x := by
        rw [Keeper.step, List.getElem?_append_left kept, List.getElem?_modify]
        rfl
      have inside' : i < (k.step s shelf).2.length := by
        rw [Keeper.step, List.length_append]
        exact Nat.lt_add_right _ kept
      show (k.run rest (k.step s shelf).2).2[i]? = _
      rw [ih inside', step, Option.map_map]
      congr 1
      funext x
      by_cases here : s.subject = i <;> simp [own, here]

/-- A build of a query without memory leaves the shelf as it is. -/
theorem run_plain_filter (steps : List Step) (shelf : List Query) :
    (plain.run (steps.filter fun s => !s.use.isBuild) shelf).2 = (plain.run steps shelf).2 := by
  induction steps generalizing shelf with
  | nil => rfl
  | cons s rest ih =>
      obtain ⟨subject, use⟩ := s
      cases use with
      | build =>
          have idle : (plain.step ⟨subject, .build⟩ shelf).2 = shelf := by
            have nothing : (shelf[subject]?.map (plain.copies · .build)).getD [] = [] := by
              cases shelf[subject]? <;> rfl
            show shelf.modify subject id ++ _ = shelf
            rw [nothing, List.append_nil, List.modify_id]
          show (plain.run (rest.filter fun s => !s.use.isBuild) shelf).2 =
            (plain.run rest (plain.step ⟨subject, .build⟩ shelf).2).2
          rw [idle, ih]
      | edit | modify | clone => exact ih _

/-- A use makes of a fresh memo what it makes of the query without memory, and leaves it fresh. -/
theorem effect_memo {m : Memo} (fresh : m.Fresh) (use : Use) :
    (memo.effect m use).query = plain.effect m.query use ∧ (memo.effect m use).Fresh := by
  cases use with
  | edit e => exact ⟨rfl, Memo.fresh_apply fresh e⟩
  | modify mods => exact ⟨m.query_applyAll _, Memo.fresh_applyAll fresh _⟩
  | clone => exact ⟨rfl, fresh⟩
  | build => exact (Memo.build_of_fresh fresh).2

/-- A step does with fresh memos what it does without memory, and leaves them fresh. -/
theorem step_memo {memos : List Memo} (fresh : ∀ m ∈ memos, m.Fresh) (s : Step) :
    (memo.step s memos).1 = (plain.step s (memos.map (·.query))).1 ∧
      (memo.step s memos).2.map (·.query) = (plain.step s (memos.map (·.query))).2 ∧
      ∀ m ∈ (memo.step s memos).2, m.Fresh := by
  obtain ⟨subject, use⟩ := s
  have effects : ∀ m ∈ memos, (memo.effect m use).query = plain.effect m.query use :=
    fun m member => (effect_memo (fresh m member) use).1
  have kept : ∀ m : Memo, m.Fresh → (memo.effect m use).Fresh :=
    fun m fresh => (effect_memo fresh use).2
  have queries : (memos.modify subject (memo.effect · use)).map (·.query) =
      (memos.map (·.query)).modify subject (plain.effect · use) := List.map_modify effects subject
  have modified := List.forall_mem_modify fresh kept subject
  simp only [step, List.map_append, queries, List.getElem?_map]
  cases found : memos[subject]? with
  | none => exact ⟨rfl, rfl, by simpa using modified⟩
  | some m =>
      have own : m.Fresh := fresh m (List.mem_of_getElem? found)
      cases use with
      | edit | modify => exact ⟨rfl, rfl, by simpa [copies] using modified⟩
      | build =>
          exact ⟨congrArg some (Memo.build_of_fresh own).1, rfl, by simpa [copies] using modified⟩
      | clone =>
          refine ⟨rfl, rfl, fun m' member => ?_⟩
          rcases List.mem_append.mp member with old | copy
          · exact modified m' old
          · obtain rfl := List.mem_singleton.mp copy
            exact Memo.fresh_ofQuery m.query

/-- A history does with fresh memos what it does without memory, and leaves them fresh. -/
theorem run_memo {memos : List Memo} (fresh : ∀ m ∈ memos, m.Fresh) (steps : List Step) :
    (memo.run steps memos).1 = (plain.run steps (memos.map (·.query))).1 ∧
      (memo.run steps memos).2.map (·.query) = (plain.run steps (memos.map (·.query))).2 ∧
      ∀ m ∈ (memo.run steps memos).2, m.Fresh := by
  induction steps generalizing memos with
  | nil => exact ⟨rfl, rfl, fresh⟩
  | cons s rest ih =>
      obtain ⟨answer, queries, fresh'⟩ := step_memo fresh s
      obtain ⟨answers, after, fresh''⟩ := ih fresh'
      rw [queries] at answers after
      refine ⟨?_, after, fresh''⟩
      show _ :: _ = _ :: _
      rw [answer, answers]

end Keeper

open Keeper

/-- **A build is always fresh.** For every history of edits, modifiers, copies and builds, in any
order, on a shelf of fresh memos, such as newly made queries:

* every build answers the statement that is rendered from the query as it then stands: the history
  has the answers, and leads to the queries, that it has without memory;
* and a build after it does so too;
* with all builds left out, a build after the history answers the same;
* a copy and its original do not influence each other: each becomes what its own steps make of it,
  whatever is done with the other. -/
theorem build_always_fresh {memos : List Memo} (fresh : ∀ m ∈ memos, m.Fresh)
    (steps : List Step) :
    ((memo.run steps memos).1 = (plain.run steps (memos.map (·.query))).1 ∧
      (memo.run steps memos).2.map (·.query) = (plain.run steps (memos.map (·.query))).2) ∧
      (∀ m ∈ (memo.run steps memos).2, m.build.1 = m.query.render) ∧
      (∀ i : Nat, (memo.run steps memos).2[i]?.map (·.build.1) =
        (memo.run (steps.filter fun s => !s.use.isBuild) memos).2[i]?.map (·.build.1)) ∧
      ∀ (i : Nat) (m : Memo), memos[i]? = some m →
        let after := (memo.run (⟨i, .clone⟩ :: steps) memos).2
        after[i]? = some (memo.own i steps m) ∧
          after[memos.length]? = some (memo.own memos.length steps (Memo.ofQuery m.query)) := by
  obtain ⟨answers, queries, fresh'⟩ := run_memo fresh steps
  refine ⟨⟨answers, queries⟩, fun m member => (Memo.build_of_fresh (fresh' m member)).1,
    fun i => ?_, fun i m found => ?_⟩
  · obtain ⟨-, queries', fresh''⟩ := run_memo fresh (steps.filter fun s => !s.use.isBuild)
    have built {shelf : List Memo} (all : ∀ m ∈ shelf, m.Fresh) :
        shelf[i]?.map (·.build.1) = (shelf.map (·.query))[i]?.map (·.render) := by
      rw [List.getElem?_map, Option.map_map]
      exact Option.map_congr fun m found =>
        (Memo.build_of_fresh (all m (List.mem_of_getElem? found))).1
    rw [built fresh', built fresh'', queries, queries', run_plain_filter]
  · have both : (memo.step ⟨i, .clone⟩ memos).2 = memos ++ [Memo.ofQuery m.query] := by
      show memos.modify i id ++ (memos[i]?.map (memo.copies · .clone)).getD [] = _
      rw [List.modify_id, found]
      rfl
    have inside : i < memos.length := (List.getElem?_eq_some_iff.mp found).1
    show (memo.run steps (memo.step ⟨i, .clone⟩ memos).2).2[i]? = _ ∧
      (memo.run steps (memo.step ⟨i, .clone⟩ memos).2).2[memos.length]? = _
    rw [both, getElem?_run _ _ (by simp; omega), getElem?_run _ _ (by simp),
      List.getElem?_append_left inside, found]
    simp

/-- Builds between edits that keep the remembered statement and edits that do not, and a copy that
goes its own way. -/
def history : List Step :=
  [⟨0, .edit (.appendFrom "t")⟩, ⟨0, .build⟩, ⟨0, .edit (.appendLoad "A")⟩, ⟨0, .edit .orLast⟩,
    ⟨0, .build⟩, ⟨0, .clone⟩, ⟨1, .modify [.limit 5]⟩, ⟨0, .build⟩, ⟨1, .build⟩]

theorem history_answers :
    let memos := [Memo.ofQuery (empty .postgres)]
    (∀ m ∈ memos, m.Fresh) ∧
      (memo.run history memos).1 = (plain.run history [empty .postgres]).1 ∧
      (memo.run history memos).1.filterMap (·.map (·.sql)) =
        ["SELECT * FROM \"t\";", "SELECT * FROM \"t\";", "SELECT * FROM \"t\";",
          "SELECT * FROM \"t\" LIMIT 5;"] :=
  have fresh : ∀ m ∈ [Memo.ofQuery (empty .postgres)], m.Fresh :=
    List.forall_mem_singleton.mpr (Memo.fresh_ofQuery _)
  ⟨fresh, (build_always_fresh fresh history).1.1, by decide +kernel⟩

end Query

end QueryBind
