/-
# QueryBind.Proofs.Query.StatementKind — the kind of statement that edits settle

Only four edits have a part in the kind of statement (`Edit.setsStatement`), and their order matters
little: raw SQL stands over DELETE, DELETE over UPDATE, and UPDATE over SELECT.

* Raw SQL stays as it is but for its arguments, which the last edit that gives any settles
  (`statement_after_sql`).
* Without raw SQL, the kind is read off the edits that are there, and the columns of an UPDATE are
  those that all of them give, put in turn (`statement_without_sql`).
* Putting columns in turn keeps the last value of each (`Assignments.mem_putAll`).

`statement_settled` says this of a newly made query under edits, modifiers, copies and builds, and of
what a build then answers.
-/
import Mathlib.Data.List.Induction
import QueryBind.Proofs.Query.Freshness
import QueryBind.Proofs.Query.Layout
import QueryBind.Proofs.Query.Nesting

namespace QueryBind

set_option autoImplicit false

namespace Assignments

/-- The value that was given last for a column. -/
def last? (given : List (String × Value)) (column : String) : Option Value :=
  given.reverse.lookup column

theorem putAll_concat (given : List (String × Value)) (column : String) (value : Value)
    (columns : Assignments) :
    putAll (given ++ [(column, value)]) columns = put column value (putAll given columns) :=
  List.foldl_append

theorem last?_concat (given : List (String × Value)) (c : String) (v : Value) (column : String) :
    last? (given ++ [(c, v)]) column = if column = c then some v else last? given column := by
  rw [last?, List.reverse_concat, List.lookup_cons]
  by_cases same : column = c
  · simp [same]
  · rw [if_neg same, beq_false_of_ne same, last?]

/-- Of the columns put in turn each has the value that was given last for it. -/
theorem mem_putAll (given : List (String × Value)) {column : String} {value : Value} :
    (column, value) ∈ putAll given [] ↔ last? given column = some value := by
  induction given using List.reverseRecOn with
  | nil => simp [putAll, last?]
  | append_singleton given x ih =>
      obtain ⟨c, v⟩ := x
      rw [putAll_concat, mem_put (putAll_ascending given .nil), ih, last?_concat]
      by_cases same : column = c <;> simp [same, eq_comm]

/-- The columns put in turn are those that were given. -/
theorem columns_putAll (given : List (String × Value)) {column : String} :
    column ∈ (putAll given []).map (·.1) ↔ column ∈ given.map (·.1) := by
  induction given using List.reverseRecOn with
  | nil => rfl
  | append_singleton given x ih =>
      obtain ⟨c, v⟩ := x
      rw [putAll_concat, List.map_append, List.mem_append, ← ih]
      simp only [List.mem_map, mem_put (putAll_ascending given .nil), or_and_right, exists_or,
        exists_eq_left, List.map_cons, List.map_nil, List.mem_singleton]
      by_cases same : column = c
      · simp [same]
      · simp [same, Ne.symm same]

end Assignments

/-! ## Kinds -/

namespace Statement

/-- The statement that is a DELETE, or an UPDATE of all columns of the updates, if there is one. -/
def settled (deleted : Bool) (updates : List (List (String × Value))) : Statement :=
  if deleted then .delete
  else if updates.isEmpty then .select
  else .update (Assignments.putAll updates.flatten [])

variable (deleted : Bool) (updates : List (List (String × Value)))

theorem withArgs_settled (args : List Value) :
    (settled deleted updates).withArgs args = settled deleted updates := by
  cases deleted <;> cases updates <;> rfl

theorem toDelete_settled : (settled deleted updates).toDelete = settled true updates := by
  cases deleted <;> cases updates <;> rfl

theorem toUpdate_settled (columns : List (String × Value)) :
    (settled deleted updates).toUpdate columns = settled deleted (updates ++ [columns]) := by
  cases deleted with
  | true => rfl
  | false => cases updates <;> simp [settled, toUpdate, Assignments.putAll]

theorem settled_update {updates : List (List (String × Value))} (updated : updates ≠ []) :
    settled false updates = .update (Assignments.putAll updates.flatten []) := by
  simp [settled, updated]

end Statement

open Statement

namespace Query

namespace Edit

def isSql : Edit → Bool
  | .setSql _ _ => true
  | _ => false

def isDelete : Edit → Bool
  | .setDelete => true
  | _ => false

/-- The columns that an edit gives to an UPDATE. -/
def update? : Edit → Option (List (String × Value))
  | .setUpdate columns => some columns
  | _ => none

/-- The arguments that an edit gives to raw SQL. -/
def args? : Edit → Option (List Value)
  | .setArgs args => some args
  | _ => none

theorem any_isDelete {edits : List Edit} : edits.any isDelete = false ↔ .setDelete ∉ edits := by
  rw [← Bool.not_eq_true, List.any_eq_true]
  refine not_congr ⟨?_, fun deletes => ⟨_, deletes, rfl⟩⟩
  rintro ⟨e, member, deletes⟩
  cases e with
  | setDelete => exact member
  | _ => cases deletes

theorem filterMap_update? {edits : List Edit} :
    edits.filterMap update? = [] ↔ ∀ columns, .setUpdate columns ∉ edits := by
  rw [List.filterMap_eq_nil_iff]
  constructor
  · exact fun none columns member => by cases none _ member
  · intro absent e member
    cases e with
    | setUpdate columns => exact absurd member (absent columns)
    | _ => rfl

/-- The edit has a part in the kind of statement, or in what the statement is made with. -/
def setsStatement : Edit → Bool
  | .setSql _ _ | .setArgs _ | .setDelete | .setUpdate _ => true
  | _ => false

/-- The arguments of raw SQL after edits. -/
def lastArgs (args : List Value) (edits : List Edit) : List Value :=
  (edits.filterMap args?).getLast?.getD args

/-- The columns that edits give to an UPDATE, in turn. -/
def columnsGiven (edits : List Edit) : List (String × Value) := (edits.filterMap update?).flatten

end Edit

open Edit

theorem applyAll_concat (q : Query) (edits : List Edit) (e : Edit) :
    q.applyAll (edits ++ [e]) = (q.applyAll edits).apply e := applyAll_append q edits [e]

theorem statement_of_idle (q : Query) {e : Edit} (idle : e.setsStatement = false) :
    (q.apply e).statement = q.statement := by
  cases e with
  | setSql | setArgs | setDelete | setUpdate => cases idle
  | _ => rfl

/-- Raw SQL stays, with the arguments that are given last. -/
theorem statement_after_sql {q : Query} {sql : String} {args : List Value}
    (raw : q.statement = .raw sql args) {edits : List Edit} (later : ∀ e ∈ edits, e.isSql = false) :
    (q.applyAll edits).statement = .raw sql (lastArgs args edits) := by
  induction edits using List.reverseRecOn with
  | nil => exact raw
  | append_singleton edits e ih =>
      obtain ⟨earlier, last⟩ := List.forall_mem_append.mp later
      have before := ih earlier
      have here := last e List.mem_cons_self
      rw [applyAll_concat, lastArgs, List.filterMap_append]
      cases e with
      | setSql => cases here
      | setArgs args' => simp [apply, before, withArgs, args?]
      | setDelete => simp [apply, before, toDelete, lastArgs, args?]
      | setUpdate columns => simp [apply, before, toUpdate, lastArgs, args?]
      | _ =>
          rw [statement_of_idle _ rfl, before]
          simp [lastArgs, args?]

/-- Of edits among which is raw SQL there is a last one that is. -/
theorem exists_last_sql {edits : List Edit} (sql : ∃ e ∈ edits, e.isSql = true) :
    ∃ before text args after, edits = before ++ .setSql text args :: after ∧
      ∀ e ∈ after, e.isSql = false := by
  induction edits using List.reverseRecOn with
  | nil => simp at sql
  | append_singleton edits e ih =>
      cases here : e.isSql with
      | true =>
          cases e with
          | setSql text args => exact ⟨edits, text, args, [], rfl, nofun⟩
          | _ => cases here
      | false =>
          obtain ⟨before, text, args, after, rfl, later⟩ := ih (by simpa [here] using sql)
          refine ⟨before, text, args, after ++ [e], by simp, ?_⟩
          simpa [or_imp, forall_and, here] using later

/-- The statement is the last raw SQL among the edits, if there is any. -/
theorem statement_of_sql (d : Dialect) {edits : List Edit} (sql : ∃ e ∈ edits, e.isSql = true) :
    ∃ before text args after, edits = before ++ .setSql text args :: after ∧
      (∀ e ∈ after, e.isSql = false) ∧
        ((empty d).applyAll edits).statement = .raw text (lastArgs args after) := by
  obtain ⟨before, text, args, after, rfl, later⟩ := exists_last_sql sql
  refine ⟨before, text, args, after, rfl, later, ?_⟩
  rw [← List.singleton_append, ← List.append_assoc, applyAll_append, applyAll_concat]
  exact statement_after_sql rfl later

/-- Without raw SQL, the edits that are there settle the kind. -/
theorem statement_without_sql (d : Dialect) {edits : List Edit}
    (noSql : ∀ e ∈ edits, e.isSql = false) :
    ((empty d).applyAll edits).statement =
      settled (edits.any isDelete) (edits.filterMap update?) := by
  -- the last edit is applied to what the edits before it settled
  induction edits using List.reverseRecOn with
  | nil => rfl
  | append_singleton edits e ih =>
      obtain ⟨earlier, last⟩ := List.forall_mem_append.mp noSql
      have before := ih earlier
      have here := last e List.mem_cons_self
      rw [applyAll_concat, List.any_append, List.filterMap_append]
      cases e with
      | setSql => cases here
      | setArgs args =>
          rw [apply, before, withArgs_settled]
          simp [isDelete, update?, List.filterMap_cons]
      | setDelete =>
          rw [apply, before, toDelete_settled]
          simp [isDelete, update?, List.filterMap_cons]
      | setUpdate columns =>
          rw [apply, before, toUpdate_settled]
          simp [isDelete, update?]
      | _ =>
          rw [statement_of_idle _ rfl, before]
          simp [isDelete, update?, List.filterMap_cons]

theorem statement_of_delete (d : Dialect) {edits : List Edit}
    (noSql : ∀ e ∈ edits, e.isSql = false) (deletes : .setDelete ∈ edits) :
    ((empty d).applyAll edits).statement = .delete := by
  have deleted : edits.any isDelete = true := List.any_eq_true.mpr ⟨_, deletes, rfl⟩
  rw [statement_without_sql d noSql, deleted, settled, if_pos rfl]

section Kept

variable (d : Dialect) {edits : List Edit} (noSql : ∀ e ∈ edits, e.isSql = false)
  (kept : .setDelete ∉ edits)

include noSql kept

theorem statement_of_update {columns : List (String × Value)} (update : .setUpdate columns ∈ edits) :
    ((empty d).applyAll edits).statement =
      .update (Assignments.putAll (columnsGiven edits) []) := by
  have updated : edits.filterMap update? ≠ [] :=
    List.ne_nil_of_mem (List.mem_filterMap.mpr ⟨_, update, rfl⟩)
  rw [statement_without_sql d noSql, any_isDelete.mpr kept, settled_update updated]
  rfl

theorem statement_of_none (idle : ∀ columns, .setUpdate columns ∉ edits) :
    ((empty d).applyAll edits).statement = .select := by
  rw [statement_without_sql d noSql, any_isDelete.mpr kept, filterMap_update?.mpr idle]
  rfl

end Kept

/-! ## Histories -/

/-- The edits that a use makes. -/
def Use.edits : Use → List Edit
  | .edit e => [e]
  | .modify mods => Mod.editsOfAll mods
  | .clone | .build => []

theorem effect_plain (q : Query) (use : Use) :
    Keeper.plain.effect q use = q.applyAll use.edits := by
  cases use <;> rfl

/-- Uses make of a fresh memo a fresh one, of the query that their edits make. -/
theorem foldl_effect_memo {m : Memo} (fresh : m.Fresh) (uses : List Use) :
    (uses.foldl Keeper.memo.effect m).query = m.query.applyAll (uses.flatMap Use.edits) ∧
      (uses.foldl Keeper.memo.effect m).Fresh := by
  induction uses generalizing m with
  | nil => exact ⟨rfl, fresh⟩
  | cons use rest ih =>
      obtain ⟨step, fresh'⟩ := Keeper.effect_memo fresh use
      obtain ⟨onward, fresh''⟩ := ih fresh'
      refine ⟨?_, fresh''⟩
      rw [List.foldl_cons, onward, step, effect_plain, List.flatMap_cons, applyAll_append]

/-- **What was set settles the kind of statement.** For every history of edits, modifiers, copies and
builds of a newly made query, with `edits` the edits that it makes:

* if there is raw SQL among them, the statement is the last one's, with the arguments that were last
  given with it or after it, and a build answers just these;
* otherwise, if DELETE was set, it is a DELETE;
* otherwise, if an UPDATE was set, it is one of all columns that were given, each with the value given
  last for it, in strictly ascending order, and a build lays it out with these columns;
* otherwise it is a SELECT.

The other edits leave the statement of any query as it is. -/
theorem statement_settled (d : Dialect) (uses : List Use) :
    let edits := uses.flatMap Use.edits
    let m := uses.foldl Keeper.memo.effect (Memo.ofQuery (empty d))
    ((∃ e ∈ edits, e.isSql = true) → ∃ before sql args after,
      edits = before ++ .setSql sql args :: after ∧ (∀ e ∈ after, e.isSql = false) ∧
        m.query.statement = .raw sql (lastArgs args after) ∧
        m.build.1 = ⟨sql, lastArgs args after⟩) ∧
    ((∀ e ∈ edits, e.isSql = false) →
      (.setDelete ∈ edits → m.query.statement = .delete) ∧
      (.setDelete ∉ edits → (∃ columns, .setUpdate columns ∈ edits) →
        ∃ columns : Assignments, m.query.statement = .update columns ∧
          (∀ column, column ∈ columns.map (·.1) ↔ column ∈ (columnsGiven edits).map (·.1)) ∧
          (∀ column value, (column, value) ∈ columns ↔
            Assignments.last? (columnsGiven edits) column = some value) ∧
          columns.Ascending ∧
          (columns ≠ [] →
            m.build.1 = renderLayout m.query.dialect (m.query.updateLayout columns))) ∧
      (.setDelete ∉ edits → (∀ columns, .setUpdate columns ∉ edits) →
        m.query.statement = .select)) ∧
    ∀ (q : Query) (e : Edit), e.setsStatement = false → (q.apply e).statement = q.statement := by
  intro edits m
  obtain ⟨made, fresh⟩ := foldl_effect_memo (Memo.fresh_ofQuery (empty d)) uses
  have query : m.query = (empty d).applyAll edits := made
  have builds : m.build.1 = m.query.render := (Memo.build_of_fresh fresh).1
  refine ⟨fun sql => ?_, fun noSql => ⟨fun deletes => ?_, fun kept updates => ?_, fun kept idle => ?_⟩,
    fun q e => statement_of_idle q⟩
  · obtain ⟨before, text, args, after, split, later, raw⟩ := statement_of_sql d sql
    rw [← query] at raw
    exact ⟨before, text, args, after, split, later, raw, by rw [builds, render, raw]⟩
  · exact query ▸ statement_of_delete d noSql deletes
  · obtain ⟨columns, update⟩ := updates
    have kind := statement_of_update d noSql kept update
    rw [← query] at kind
    refine ⟨_, kind, fun _ => Assignments.columns_putAll _, fun _ _ => Assignments.mem_putAll _,
      Assignments.putAll_ascending _ .nil, fun sets => ?_⟩
    obtain ⟨c, rest, shape⟩ := List.exists_cons_of_ne_nil sets
    rw [builds, render, kind, shape]
  · exact query ▸ statement_of_none d noSql kept idle

/-- Raw SQL with arguments given later, and an UPDATE whose columns are given twice. -/
theorem settled_kinds :
    let raw : List Use := [.modify [.sql "select ?" [.int 1]], .build, .edit .setDelete,
      .edit (.setArgs [.int 2])]
    let updates : List Use := [.edit (.setUpdate [("b", .int 1), ("a", .int 2)]), .clone,
      .edit (.setUpdate [("b", .int 3)])]
    let memo := (fun uses : List Use => uses.foldl Keeper.memo.effect (Memo.ofQuery (empty .mssql)))
    (memo raw).build.1 = ⟨"select ?", [.int 2]⟩ ∧
      ∃ columns, (memo updates).query.statement = .update columns ∧ columns.Ascending ∧
        ("b", .int 3) ∈ columns ∧ ("b", .int 1) ∉ columns := by
  intro raw updates memo
  constructor
  · obtain ⟨before, sql, args, after, split, -, -, builds⟩ :=
      (statement_settled .mssql raw).1 ⟨.setSql "select ?" [.int 1], .head _, rfl⟩
    obtain ⟨-, ⟨rfl, rfl⟩, rfl⟩ : before = [] ∧ (sql = "select ?" ∧ args = [.int 1]) ∧
        after = [.setDelete, .setArgs [.int 2]] := by
      simpa [raw, Use.edits, Mod.editsOfAll, Mod.edits, List.cons_eq_append_iff] using split
    exact builds
  · obtain ⟨columns, kind, -, values, ascending, -⟩ :=
      ((statement_settled .mssql updates).2.1 (by decide)).2.1 (by simp [updates, Use.edits])
        ⟨_, .head _⟩
    exact ⟨columns, kind, ascending, (values _ _).mpr rfl,
      fun earlier => nomatch (values _ _).mp earlier⟩

end Query

end QueryBind
