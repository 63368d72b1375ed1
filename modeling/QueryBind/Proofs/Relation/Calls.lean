/-
# QueryBind.Proofs.Relation.Calls — which loaders are called, when, and with what

The calls of a walk are those of its legs in order (`Model.calls`). A leg is called for when there
are objects at the end of its way and its prefix is not loaded (`callsAt_eq_nil_iff`), and a call
that succeeds adds its prefix to the loaded ones. So no prefix is called for twice
(`calls_once`), and a leg finds the prefix before it loaded, or nothing to load onto
(`parents_loaded`). The main statement, `loads_once_parent_first`, says all of this of the calls
of a run.
-/
import QueryBind.Catalogue
import QueryBind.Executor.Script
import QueryBind.Proofs.Relation.Traversal

namespace QueryBind

set_option autoImplicit false

variable {σ α : Type}

namespace Model

section Calls

variable (m : Model σ α) (exec : Executor σ) (type : Nat) (singular : Bool)

/-- The call that a leg makes at a stage, if it makes one. -/
def callsAt (leg : Leg) (s : Stage σ α) : List (Call σ α) :=
  match m.move type singular leg s with
  | .call c => [c]
  | _ => []

/-- The calls of a walk, up to the first failure. -/
def calls : List Leg → Stage σ α → List (Call σ α)
  | [], _ => []
  | leg :: rest, s =>
      m.callsAt type singular leg s ++
        match m.visit exec type singular leg s with
        | (.ok (), s) => calls rest s
        | (.error _, _) => []

end Calls

variable {m : Model σ α} {exec : Executor σ} {type : Nat} {singular : Bool}

/-! ## One leg -/

/-- All that a leg can have to do, and when. -/
theorem move_cases (m : Model σ α) (type : Nat) (singular : Bool) (leg : Leg) (s : Stage σ α) :
    (m.move type singular leg s = .quiet ∧ m.reached type leg.way s.objects = []) ∨
      (∃ e, m.move type singular leg s = .refused e) ∨
      (m.move type singular leg s = .known ∧ leg.path ∈ s.loaded) ∨
      ∃ f relation, m.focus? type leg.way = some f ∧ m.relation? f.type leg.name = some relation ∧
        m.reached type leg.way s.objects ≠ [] ∧ leg.path ∉ s.loaded ∧
        m.move type singular leg s = .call ⟨leg, s, f, relation, singular && f.toOne⟩ := by
  cases leads : m.focus? type leg.way with
  | none => exact .inl ⟨by simp [move, leads], reached_of_strays leads s.objects⟩
  | some f =>
      rw [← batch_eq_reached leads]
      by_cases empty : f.batch s.objects = []
      · exact .inl ⟨by simp [move, leads, empty], empty⟩
      cases registered : m.registry f.type with
      | none => exact .inr (.inl ⟨_, move_unrelated leads empty registered⟩)
      | some registry =>
          cases named : registry.get? leg.name with
          | none => exact .inr (.inl ⟨_, move_unnamed leads empty registered named⟩)
          | some relation =>
              rw [move_named leads empty registered named]
              by_cases known : leg.path ∈ s.loaded
              · exact .inr (.inr (.inl ⟨by simp [known], known⟩))
              · refine .inr (.inr (.inr ⟨f, relation, rfl, ?_, empty, known, by simp [known]⟩))
                simp [relation?, registered, named]

theorem loaded_of_run_ok {c : Call σ α} {s : Stage σ α} (ok : c.run exec = (.ok (), s)) :
    s.loaded = c.stage.loaded ++ [c.leg.path] := by
  unfold Call.run at ok
  generalize StateT.run _ _ = answer at ok
  obtain ⟨⟨e | done, batch⟩, trace⟩ := answer
  · cases ok
  · cases ok
    rfl

theorem mem_callsAt {leg : Leg} {s : Stage σ α} {c : Call σ α}
    (member : c ∈ m.callsAt type singular leg s) :
    c.leg = leg ∧ c.stage = s ∧ leg.path ∉ s.loaded ∧
      (∃ f, m.focus? type leg.way = some f ∧ m.relation? f.type leg.name = some c.relation) ∧
      c.batch = m.reached type leg.way s.objects ∧ c.batch ≠ [] ∧
      c.singular = (singular && m.allToOne type leg.way) := by
  unfold callsAt at member
  rcases move_cases m type singular leg s with
    ⟨quiet, -⟩ | ⟨e, refused⟩ | ⟨known, -⟩ | ⟨f, relation, leads, related, some_object, fresh, call⟩
  · simp [quiet] at member
  · simp [refused] at member
  · simp [known] at member
  · simp only [call, List.mem_singleton] at member
    subst member
    have batch := batch_eq_reached leads s.objects
    exact ⟨rfl, rfl, fresh, ⟨f, leads, related⟩, batch,
      fun none => some_object (batch.symm.trans none), by rw [toOne_eq_allToOne leads]⟩

/-- What a leg that does not fail does to the loaded prefixes: it adds its own where it makes a
call, and it makes none for want of objects, or because its prefix is loaded. -/
theorem visit_ok {leg : Leg} {s after : Stage σ α}
    (ok : m.visit exec type singular leg s = (.ok (), after)) :
    (m.callsAt type singular leg s = [] ∧ m.reached type leg.way s.objects = [] ∧ after = s) ∨
      (m.callsAt type singular leg s = [] ∧ leg.path ∈ s.loaded ∧
        after.objects = s.objects ∧ after.loaded = s.loaded) ∨
      (∃ c, m.callsAt type singular leg s = [c] ∧ c.leg = leg ∧
        m.reached type leg.way s.objects ≠ [] ∧ leg.path ∉ s.loaded ∧
        after.loaded = s.loaded ++ [leg.path]) := by
  unfold callsAt
  unfold visit at ok
  rcases move_cases m type singular leg s with
    ⟨quiet, empty⟩ | ⟨e, refused⟩ | ⟨known, member⟩ |
    ⟨f, relation, leads, related, some_object, fresh, call⟩
  · rw [quiet] at ok ⊢
    cases ok
    exact .inl ⟨rfl, empty, rfl⟩
  · rw [refused] at ok
    cases ok
  · rw [known] at ok ⊢
    cases ok
    exact .inr (.inl ⟨rfl, member, rfl, rfl⟩)
  · rw [call] at ok ⊢
    exact .inr (.inr ⟨_, rfl, rfl, some_object, fresh, loaded_of_run_ok ok⟩)

/-! ## All legs -/

theorem calls_append (a b : List Leg) (s : Stage σ α) :
    m.calls exec type singular (a ++ b) s = m.calls exec type singular a s ++
      match m.visitAll exec type singular a s with
      | (.ok (), s) => m.calls exec type singular b s
      | (.error _, _) => [] := by
  induction a generalizing s with
  | nil => rfl
  | cons leg a ih =>
      simp only [List.cons_append, calls, visitAll]
      rcases m.visit exec type singular leg s with ⟨e | ok, after⟩
      · simp
      · simp [ih]

theorem calls_of_ok {leg : Leg} {s after : Stage σ α}
    (ok : m.visit exec type singular leg s = (.ok (), after)) (rest : List Leg) :
    m.calls exec type singular (leg :: rest) s =
      m.callsAt type singular leg s ++ m.calls exec type singular rest after := by
  rw [calls, ok]

theorem calls_of_error {leg : Leg} {s after : Stage σ α} {e : Error}
    (failed : m.visit exec type singular leg s = (.error e, after)) (rest : List Leg) :
    m.calls exec type singular (leg :: rest) s = m.callsAt type singular leg s := by
  rw [calls, failed, List.append_nil]

theorem nodup_callsAt (leg : Leg) (s : Stage σ α) :
    ((m.callsAt type singular leg s).map (·.leg.path)).Nodup := by
  unfold callsAt
  split <;> simp

/-- A prefix that is loaded is not called for, and none is called for twice. -/
theorem calls_once (legs : List Leg) (s : Stage σ α) :
    ((m.calls exec type singular legs s).map (·.leg.path)).Nodup ∧
      ∀ c ∈ m.calls exec type singular legs s, c.leg.path ∉ s.loaded := by
  induction legs generalizing s with
  | nil => simp [calls]
  | cons leg rest ih =>
      rcases visited : m.visit exec type singular leg s with ⟨e | done, after⟩
      · rw [calls_of_error visited]
        refine ⟨nodup_callsAt leg s, fun c member => ?_⟩
        obtain ⟨rfl, rfl, fresh, -⟩ := mem_callsAt member
        exact fresh
      · rw [calls_of_ok visited]
        obtain ⟨once, fresh⟩ := ih after
        rcases visit_ok visited with ⟨none, -, rfl⟩ | ⟨none, -, -, same⟩ |
          ⟨c, call, rfl, -, unloaded, grown⟩
        · rw [none]
          exact ⟨once, fresh⟩
        · rw [none]
          exact ⟨once, same ▸ fresh⟩
        · simp only [grown, List.mem_append, List.mem_singleton, not_or] at fresh
          rw [call]
          refine ⟨List.nodup_cons.mpr ⟨?_, once⟩, List.forall_mem_cons.mpr
            ⟨unloaded, fun c' member => (fresh c' member).1⟩⟩
          intro repeated
          obtain ⟨c', member, same⟩ := List.mem_map.mp repeated
          exact (fresh c' member).2 same

/-- A walk that does not fail loads the prefixes that it calls for. -/
theorem loaded_of_visitAll_ok {legs : List Leg} {s after : Stage σ α}
    (ok : m.visitAll exec type singular legs s = (.ok (), after)) :
    after.loaded = s.loaded ++ (m.calls exec type singular legs s).map (·.leg.path) := by
  induction legs generalizing s with
  | nil =>
      cases ok
      simp [calls]
  | cons leg rest ih =>
      rw [visitAll] at ok
      rcases visited : m.visit exec type singular leg s with ⟨e | done, next⟩
      · simp [visited] at ok
      · rw [visited] at ok
        rw [calls_of_ok visited, ih ok]
        rcases visit_ok visited with ⟨none, -, rfl⟩ | ⟨none, -, -, same⟩ |
          ⟨c, call, rfl, -, -, grown⟩
        · simp [none]
        · simp [none, same]
        · simp [call, grown]

/-- The prefix that a way spells is loaded, or nothing is reached by the way. -/
def Prepared (m : Model σ α) (type : Nat) (way : List String) (s : Stage σ α) : Prop :=
  way = [] ∨ ".".intercalate way ∈ s.loaded ∨ m.reached type way s.objects = []

theorem parent_loaded {leg : Leg} {s : Stage σ α} (prepared : m.Prepared type leg.way s) :
    ∀ c ∈ m.callsAt type singular leg s,
      c.leg.way ≠ [] → ".".intercalate c.leg.way ∈ c.stage.loaded := by
  intro c member below
  obtain ⟨rfl, rfl, -, -, batch, some_object, -⟩ := mem_callsAt member
  rcases prepared with top | loaded | empty
  · exact absurd top below
  · exact loaded
  · exact absurd (batch.trans empty) some_object

/-- A leg prepares the next one. -/
theorem prepared_of_visit_ok {way : List String} {name : String} {s after : Stage σ α}
    (ok : m.visit exec type singular ⟨way, name⟩ s = (.ok (), after)) :
    m.Prepared type (way ++ [name]) after := by
  rcases visit_ok ok with ⟨-, empty, rfl⟩ | ⟨-, known, -, same⟩ | ⟨c, -, -, -, -, grown⟩
  · exact .inr (.inr (reached_append_eq_nil empty [name]))
  · exact .inr (.inl (same ▸ known))
  · exact .inr (.inl (by rw [grown]; exact List.mem_append_right _ (List.mem_singleton_self _)))

/-- Along a path, a call is made when the prefix before it is loaded. -/
theorem parents_loaded_along (segments : List String) {way : List String} {s : Stage σ α}
    (prepared : m.Prepared type way s) :
    ∀ c ∈ m.calls exec type singular (Leg.along way segments) s,
      c.leg.way ≠ [] → ".".intercalate c.leg.way ∈ c.stage.loaded := by
  induction segments generalizing way s with
  | nil => simp [Leg.along, calls]
  | cons name rest ih =>
      rw [Leg.along]
      rcases visited : m.visit exec type singular ⟨way, name⟩ s with ⟨e | done, after⟩
      · rw [calls_of_error visited]
        exact parent_loaded prepared
      · rw [calls_of_ok visited]
        exact List.forall_mem_append.mpr
          ⟨parent_loaded prepared, ih (prepared_of_visit_ok visited)⟩

/-- A call is made when the prefix before it is loaded. -/
theorem parents_loaded (paths : List String) (s : Stage σ α) :
    ∀ c ∈ m.calls exec type singular (Leg.ofPaths paths) s,
      c.leg.way ≠ [] → ".".intercalate c.leg.way ∈ c.stage.loaded := by
  induction paths generalizing s with
  | nil => simp [Leg.ofPaths, calls]
  | cons path rest ih =>
      rw [Leg.ofPaths, List.flatMap_cons, calls_append]
      refine List.forall_mem_append.mpr ⟨parents_loaded_along _ (.inl rfl), ?_⟩
      rcases m.visitAll exec type singular (Leg.along [] (segments path)) s with ⟨e | done, after⟩
      · simp
      · exact ih after

/-- Behind an empty batch nothing is called. -/
theorem calls_quiet {way : List String} (segments : List String) {s : Stage σ α}
    (empty : m.reached type way s.objects = []) :
    m.calls exec type singular (Leg.along way segments) s = [] := by
  induction segments generalizing way with
  | nil => rfl
  | cons name rest ih =>
      have quiet : m.move type singular ⟨way, name⟩ s = .quiet := move_quiet empty
      simp only [Leg.along, calls, callsAt, visit, quiet, List.nil_append]
      exact ih (reached_append_eq_nil empty [name])

/-- A call of a walk is one of its legs', made where the legs before it lead to. -/
theorem mem_calls {legs : List Leg} {start : Stage σ α} {c : Call σ α}
    (member : c ∈ m.calls exec type singular legs start) :
    ∃ before later, legs = before ++ c.leg :: later ∧
      m.visitAll exec type singular before start = (.ok (), c.stage) ∧
      c ∈ m.callsAt type singular c.leg c.stage := by
  induction legs generalizing start with
  | nil => simp [calls] at member
  | cons leg rest ih =>
      have here (own : c ∈ m.callsAt type singular leg start) : ∃ before later,
          leg :: rest = before ++ c.leg :: later ∧
            m.visitAll exec type singular before start = (.ok (), c.stage) ∧
            c ∈ m.callsAt type singular c.leg c.stage := by
        obtain ⟨rfl, rfl, -⟩ := mem_callsAt own
        exact ⟨[], rest, rfl, rfl, own⟩
      rcases visited : m.visit exec type singular leg start with ⟨e | done, after⟩
      · rw [calls_of_error visited] at member
        exact here member
      · rw [calls_of_ok visited] at member
        rcases List.mem_append.mp member with own | below
        · exact here own
        · obtain ⟨before, later, rfl, reaches, own⟩ := ih below
          exact ⟨leg :: before, later, rfl, by rw [visitAll, visited]; exact reaches, own⟩

/-- In a walk that does not fail, every leg is visited, and makes its call between those of the legs
before it and those of the legs after it. -/
theorem calls_split {before later : List Leg} {leg : Leg} {start last : Stage σ α}
    (ok : m.visitAll exec type singular (before ++ leg :: later) start = (.ok (), last)) :
    ∃ s rest, m.visitAll exec type singular before start = (.ok (), s) ∧
      m.calls exec type singular (before ++ leg :: later) start =
        m.calls exec type singular before start ++ m.callsAt type singular leg s ++ rest ∧
      (m.callsAt type singular leg s = [] ↔
        m.reached type leg.way s.objects = [] ∨ leg.path ∈ s.loaded) := by
  rw [visitAll_append] at ok
  rw [calls_append]
  rcases walked : m.visitAll exec type singular before start with ⟨e | done, s⟩
  · simp [walked] at ok
  · simp only [walked, visitAll] at ok
    rcases visited : m.visit exec type singular leg s with ⟨e | done', after⟩
    · simp [visited] at ok
    · refine ⟨s, m.calls exec type singular later after, rfl, ?_, ?_⟩
      · rw [List.append_assoc, ← calls_of_ok visited]
      · rcases visit_ok visited with ⟨none, empty, -⟩ | ⟨none, known, -⟩ |
          ⟨c, call, -, some_object, fresh, -⟩
        · simp [none, empty]
        · simp [none, known]
        · simp [call, some_object, fresh]

/-- **Loaders are called once, parent first, with whole batches.** Of a run that does not fail, on a
batch with objects:

* the run is the walk over the legs of the paths, and its calls are those of the walk; the loaded
  prefixes grow by those that are called for;
* no prefix is called for twice, and none that was loaded before;
* the prefix before that of a call is loaded when the call is made;
* a call is made where the legs before its own lead to: the loader of the leg's relation is given
  all objects that the way reaches from the top-level batch as it stands there, and the flag for
  a way of to-one relations;
* behind an empty batch a path ends, without a call and without an error;
* the calls are in the order of the legs, and each leg makes its call unless it finds no object or
  its prefix loaded. -/
theorem loads_once_parent_first (m : Model σ α) (exec : Executor σ) (type : Nat) (singular : Bool)
    (paths : List String) {targets : List α} (some_target : targets ≠ []) (state : LoadState)
    (trace : Trace σ) {p : LoadProgress α} {after : Trace σ}
    (run : (m.load exec type singular paths targets state).run trace = (p, after))
    (ok : p.outcome = .ok ()) :
    let legs := Leg.ofPaths paths
    let start : Stage σ α := ⟨targets, state, trace⟩
    let calls := m.calls exec type singular legs start
    m.visitAll exec type singular legs start = (.ok (), ⟨p.targets, p.state, after⟩) ∧
      p.state = state ++ calls.map (·.leg.path) ∧
      (calls.map (·.leg.path)).Nodup ∧ (∀ c ∈ calls, c.leg.path ∉ state) ∧
      (∀ c ∈ calls, c.leg.way ≠ [] → ".".intercalate c.leg.way ∈ c.stage.loaded) ∧
      (∀ c ∈ calls,
        (∃ before later, legs = before ++ c.leg :: later ∧
          m.visitAll exec type singular before start = (.ok (), c.stage)) ∧
        (∃ f, m.focus? type c.leg.way = some f ∧
          m.relation? f.type c.leg.name = some c.relation) ∧
        c.batch = m.reached type c.leg.way c.stage.objects ∧ c.batch ≠ [] ∧
        c.singular = (singular && m.allToOne type c.leg.way)) ∧
      (∀ way segments s, m.reached type way s.objects = [] →
        m.calls exec type singular (Leg.along way segments) s = [] ∧
          m.visitAll exec type singular (Leg.along way segments) s = (.ok (), s)) ∧
      ∀ before leg later, legs = before ++ leg :: later → ∃ s rest,
        m.visitAll exec type singular before start = (.ok (), s) ∧
        calls = m.calls exec type singular before start ++ m.callsAt type singular leg s ++ rest ∧
        (m.callsAt type singular leg s = [] ↔
          m.reached type leg.way s.objects = [] ∨ leg.path ∈ s.loaded) := by
  intro legs start calls
  have walked : m.visitAll exec type singular legs start = (.ok (), ⟨p.targets, p.state, after⟩) :=
    (visitAll_eq_load paths some_target state trace run).trans (by rw [ok])
  obtain ⟨once, fresh⟩ := calls_once (m := m) legs start
  refine ⟨walked, loaded_of_visitAll_ok walked, once, fresh, parents_loaded paths start,
    fun c member => ?_,
    fun way segments s empty => ⟨calls_quiet segments empty, visitAll_quiet segments empty⟩,
    fun before leg later split => ?_⟩
  · obtain ⟨before, later, split, reaches, own⟩ := mem_calls member
    obtain ⟨-, -, -, related, batch, some_object, flag⟩ := mem_callsAt own
    exact ⟨⟨before, later, split, reaches⟩, related, batch, some_object, flag⟩
  · obtain ⟨s, rest, reaches, divided, idle⟩ := calls_split (split ▸ walked)
    exact ⟨s, rest, reaches, by simpa only [calls, split] using divided, idle⟩

end Model

namespace Catalogue

/-- A video, and two comments on it by one author that the script finds. -/
def commented : Stage Script Object :=
  let columns := ["id", "video_id", "author_id"]
  let rows : List Row := [⟨columns, [.int 1, .int 0, .int 7]⟩, ⟨columns, [.int 2, .int 0, .int 7]⟩]
  ⟨[Object.ofRecord (Record.blank schema video)], ["User"], ⟨⟨[⟨.ok ⟨rows, 0⟩, ⟨0⟩, ⟨0⟩⟩], []⟩, []⟩⟩

def commentPaths : List String := ["Comments.Author.Team", "User", "Comments.Replies"]

def commentedRun : LoadProgress Object × Trace Script :=
  (model.load Script.executor video true commentPaths commented.objects commented.loaded).run
    commented.trace

theorem commentedRun_ok : commentedRun.1.outcome = .ok () ∧
    commentedRun.1.state = ["User", "Comments", "Comments.Author", "Comments.Replies"] := by
  have fine : commentedRun.1.outcome.isOk = true := by decide +kernel
  refine ⟨?_, by decide +kernel⟩
  rcases outcome : commentedRun.1.outcome with e | done
  · simp [outcome, Except.isOk, Except.toBool] at fine
  · rfl

/-- The comments are loaded once for two paths, and the user, who is loaded already, is not. The
author is not found, so nothing is behind. -/
theorem commented_calls :
    let m : Model Script Object := model
    let calls := m.calls Script.executor video true (Leg.ofPaths commentPaths) commented
    commented.objects ≠ [] ∧ commentedRun.1.outcome = .ok () ∧
      calls.map (·.leg.path) = ["Comments", "Comments.Author", "Comments.Replies"] ∧
      (∀ c ∈ calls, c.leg.way ≠ [] → ".".intercalate c.leg.way ∈ c.stage.loaded) ∧
      ∀ c ∈ calls, c.batch = m.reached video c.leg.way c.stage.objects ∧ c.batch ≠ [] ∧
        c.singular = m.allToOne video c.leg.way := by
  intro m calls
  have some_target : commented.objects ≠ [] := List.cons_ne_nil _ _
  obtain ⟨ok, loaded⟩ := commentedRun_ok
  obtain ⟨-, grown, -, -, parents, given, -, -⟩ := Model.loads_once_parent_first m
    Script.executor video true commentPaths some_target commented.loaded commented.trace
    (Prod.eta commentedRun).symm ok
  refine ⟨some_target, ok, List.append_cancel_left (grown.symm.trans loaded), parents,
    fun c member => ?_⟩
  obtain ⟨-, -, batch, some_object, flag⟩ := given c member
  exact ⟨batch, some_object, flag⟩

end Catalogue

end QueryBind
