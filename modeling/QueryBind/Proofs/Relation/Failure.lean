/-
# QueryBind.Proofs.Relation.Failure — how a walk fails

A walk fails at one leg, the first that fails (`Model.visitAll_error`). Up to there every loader
succeeded (`Model.answer_of_visitAll_ok`); the leg itself finds objects but no relation, and makes
no call, or its loader fails (`Model.visit_error`). The loaded prefixes grow by those whose loader
succeeded, and by no others (`Model.loaded_of_visitAll_error`).
-/
import QueryBind.Proofs.Relation.Calls
import QueryBind.Proofs.Relation.Legs

namespace QueryBind

set_option autoImplicit false

variable {σ α : Type}

/-- The loader writes nothing where it fails. -/
def Relation.FailsClean (exec : Executor σ) (r : Relation σ α) : Prop :=
  ∀ singular targets trace cause, ((r.load exec singular targets).run trace).1.1 = .error cause →
    ((r.load exec singular targets).run trace).1.2 = targets

/-! ## The answer of a call -/

namespace Call

variable {exec : Executor σ} {c : Call σ α}

/-- What the loader answers, the batch that it hands back, and the world after it. -/
def reply (c : Call σ α) (exec : Executor σ) : (Except Error Unit × List α) × Trace σ :=
  (c.relation.load exec c.singular c.batch).run
    (c.stage.trace.log (.loadingRelationship c.leg.path c.batch.length c.singular))

def answer (c : Call σ α) (exec : Executor σ) : Except Error Unit := (c.reply exec).1.1

theorem run_eq (c : Call σ α) (exec : Executor σ) : c.run exec =
    ((c.answer exec).mapError (Error.inRelationship c.leg.name),
      ⟨c.focus.put (c.reply exec).1.2 c.stage.objects,
        if (c.answer exec).isOk then c.stage.loaded ++ [c.leg.path] else c.stage.loaded,
        (c.reply exec).2⟩) := by
  unfold run answer reply
  generalize StateT.run _ _ = reply
  obtain ⟨⟨cause | done, batch⟩, trace⟩ := reply
  · rfl
  · rfl

theorem objects_run (c : Call σ α) (exec : Executor σ) :
    (c.run exec).2.objects = c.focus.put (c.reply exec).1.2 c.stage.objects := by
  rw [run_eq]

/-- A loader that fails clean changes no object. -/
theorem objects_run_of_clean (clean : c.relation.FailsClean exec) {cause : Error}
    (failed : c.answer exec = .error cause) : (c.run exec).2.objects = c.stage.objects := by
  have unwritten : (c.reply exec).1.2 = c.batch := clean _ _ _ cause failed
  rw [objects_run, unwritten]
  exact c.focus.put_batch c.stage.objects

theorem answer_of_run_ok {s : Stage σ α} (ok : c.run exec = (.ok (), s)) :
    c.answer exec = .ok () := by
  rw [run_eq] at ok
  cases answered : c.answer exec with
  | ok done => rfl
  | error cause =>
      rw [answered] at ok
      cases ok

theorem answer_of_run_error {s : Stage σ α} {e : Error} (failed : c.run exec = (.error e, s)) :
    ∃ cause, c.answer exec = .error cause ∧ e = cause.inRelationship c.leg.name ∧
      s.loaded = c.stage.loaded := by
  rw [run_eq] at failed
  cases answered : c.answer exec with
  | ok done =>
      rw [answered] at failed
      cases failed
  | error cause =>
      rw [answered] at failed
      obtain ⟨same, rfl⟩ := Prod.mk.inj failed
      exact ⟨cause, rfl, (Except.error.inj same).symm, rfl⟩

theorem length_reply (c : Call σ α) (exec : Executor σ) :
    (c.reply exec).1.2.length = c.batch.length :=
  c.relation.length_load exec c.singular c.batch _

end Call

namespace Model

variable {m : Model σ α} {exec : Executor σ} {type : Nat} {singular : Bool}

/-! ## The failure of a leg -/

/-- There is no relation for a leg, and the error that says so: the type at the end of the way has
no relationships, or none of the leg's name. -/
def Refusal (m : Model σ α) (type : Nat) (leg : Leg) (e : Error) : Prop :=
  ∃ f, m.focus? type leg.way = some f ∧
    ((m.registry f.type = none ∧
        e = .config (.noRelationships leg.path (m.schema.typeName f.type))) ∨
      ∃ registry, m.registry f.type = some registry ∧ registry.get? leg.name = none ∧
        e = .config (.unregistered leg.path leg.name (m.schema.typeName f.type)))

/-- There is a relation for a leg. -/
def Related (m : Model σ α) (type : Nat) (leg : Leg) : Prop :=
  ∃ f r, m.focus? type leg.way = some f ∧ m.relation? f.type leg.name = some r

theorem not_related_of_refusal {leg : Leg} {e : Error} (refusal : m.Refusal type leg e) :
    ¬ m.Related type leg := by
  rintro ⟨g, r, leads', related⟩
  obtain ⟨f, leads, refused⟩ := refusal
  obtain rfl : f = g := Option.some.inj (leads.symm.trans leads')
  rcases refused with ⟨none, -⟩ | ⟨registry, registered, unnamed, -⟩
  · simp [relation?, none] at related
  · simp [relation?, registered, unnamed] at related

theorem move_of_refusal {leg : Leg} {s : Stage σ α} {e : Error} (refusal : m.Refusal type leg e)
    (some_object : m.reached type leg.way s.objects ≠ []) :
    m.move type singular leg s = .refused e := by
  obtain ⟨f, leads, refused⟩ := refusal
  rw [← batch_eq_reached leads] at some_object
  rcases refused with ⟨none, rfl⟩ | ⟨registry, registered, unnamed, rfl⟩
  · exact move_unrelated leads some_object none
  · exact move_unnamed leads some_object registered unnamed

/-- Where there are objects, there is a relation, or an error that says that there is none. -/
theorem refusal_or_related {leg : Leg} {objects : List α}
    (some_object : m.reached type leg.way objects ≠ []) :
    (∃ e, m.Refusal type leg e) ∨ m.Related type leg := by
  cases leads : m.focus? type leg.way with
  | none => exact absurd (reached_of_strays leads objects) some_object
  | some f =>
      cases registered : m.registry f.type with
      | none => exact .inl ⟨_, f, leads, .inl ⟨registered, rfl⟩⟩
      | some registry =>
          cases named : registry.get? leg.name with
          | none => exact .inl ⟨_, f, leads, .inr ⟨registry, registered, named, rfl⟩⟩
          | some r => exact .inr ⟨f, r, leads, by simp [relation?, registered, named]⟩

theorem move_of_related {leg : Leg} {s : Stage σ α} {f : Focus α}
    (leads : m.focus? type leg.way = some f) {r : Relation σ α}
    (related : m.relation? f.type leg.name = some r)
    (some_object : m.reached type leg.way s.objects ≠ []) :
    m.move type singular leg s =
      if s.loaded.contains leg.path then .known
      else .call ⟨leg, s, f, r, singular && f.toOne⟩ := by
  obtain ⟨registry, registered, named⟩ := Option.bind_eq_some_iff.mp related
  rw [← batch_eq_reached leads] at some_object
  exact move_named leads some_object registered named

/-- How a leg fails: it is refused and makes no call, or its loader fails. -/
theorem visit_error {leg : Leg} {s after : Stage σ α} {e : Error}
    (failed : m.visit exec type singular leg s = (.error e, after)) :
    m.reached type leg.way s.objects ≠ [] ∧
      ((m.Refusal type leg e ∧ m.callsAt type singular leg s = [] ∧ after = s) ∨
        ∃ c, m.callsAt type singular leg s = [c] ∧ c.run exec = (.error e, after)) := by
  by_cases empty : m.reached type leg.way s.objects = []
  · rw [visit, move_quiet empty] at failed
    cases failed
  refine ⟨empty, ?_⟩
  rcases refusal_or_related empty with ⟨e', refusal⟩ | ⟨f, r, leads, related⟩
  · have refused : m.move type singular leg s = .refused e' := move_of_refusal refusal empty
    rw [visit, refused] at failed
    obtain ⟨same, rfl⟩ := Prod.mk.inj failed
    obtain rfl : e' = e := Except.error.inj same
    exact .inl ⟨refusal, by rw [callsAt, refused], rfl⟩
  · have moves : m.move type singular leg s = _ := move_of_related leads related empty
    by_cases known : leg.path ∈ s.loaded
    · rw [if_pos (List.contains_iff_mem.mpr known)] at moves
      rw [visit, moves] at failed
      cases failed
    · rw [if_neg (mt List.contains_iff_mem.mp known)] at moves
      rw [visit, moves] at failed
      exact .inr ⟨_, by rw [callsAt, moves], failed⟩

/-- A walk fails at its first leg that fails; no leg behind it makes a call. -/
theorem visitAll_error {legs : List Leg} {start after : Stage σ α} {e : Error}
    (failed : m.visitAll exec type singular legs start = (.error e, after)) :
    ∃ before leg later s, legs = before ++ leg :: later ∧
      m.visitAll exec type singular before start = (.ok (), s) ∧
      m.visit exec type singular leg s = (.error e, after) ∧
      m.calls exec type singular legs start =
        m.calls exec type singular before start ++ m.callsAt type singular leg s := by
  induction legs generalizing start with
  | nil => cases failed
  | cons leg rest ih =>
      rw [visitAll] at failed
      rcases visited : m.visit exec type singular leg start with ⟨e' | done, next⟩
      · rw [visited] at failed
        cases failed
        exact ⟨[], leg, rest, start, rfl, rfl, visited, calls_of_error visited rest⟩
      · rw [visited] at failed
        obtain ⟨before, last, later, s, rfl, walked, fails, made⟩ := ih failed
        refine ⟨leg :: before, last, later, s, rfl, ?_, fails, ?_⟩
        · rw [visitAll, visited]
          exact walked
        · rw [calls_of_ok visited, calls_of_ok visited, made, List.append_assoc]

theorem move_of_mem_callsAt {leg : Leg} {s : Stage σ α} {c : Call σ α}
    (member : c ∈ m.callsAt type singular leg s) : m.move type singular leg s = .call c := by
  unfold callsAt at member
  split at member
  · next call =>
      obtain rfl := List.mem_singleton.mp member
      exact call
  · cases member

theorem eq_of_mem_callsAt {leg : Leg} {s : Stage σ α} {c : Call σ α}
    (member : c ∈ m.callsAt type singular leg s) :
    ∃ f r, m.focus? type leg.way = some f ∧ m.relation? f.type leg.name = some r ∧
      m.reached type leg.way s.objects ≠ [] ∧ leg.path ∉ s.loaded ∧
      c = ⟨leg, s, f, r, singular && f.toOne⟩ := by
  have call := move_of_mem_callsAt member
  rcases move_cases m type singular leg s with
    ⟨quiet, -⟩ | ⟨e, refused⟩ | ⟨known, -⟩ | ⟨f, r, leads, related, some_object, fresh, call'⟩
  · simp [quiet] at call
  · simp [refused] at call
  · simp [known] at call
  · exact ⟨f, r, leads, related, some_object, fresh, Move.call.inj (call.symm.trans call')⟩

/-- In a walk that does not fail, every loader succeeds. -/
theorem answer_of_visitAll_ok {legs : List Leg} {start after : Stage σ α}
    (ok : m.visitAll exec type singular legs start = (.ok (), after)) :
    ∀ c ∈ m.calls exec type singular legs start, c.answer exec = .ok () := by
  intro c member
  obtain ⟨before, later, rfl, walked, own⟩ := mem_calls member
  rw [visitAll_append, walked] at ok
  simp only [visitAll] at ok
  rw [visit, move_of_mem_callsAt own] at ok
  rcases ran : c.run exec with ⟨e | done, s⟩
  · simp [ran] at ok
  · exact Call.answer_of_run_ok ran

/-- A walk that fails loads the prefixes whose loader succeeds. -/
theorem loaded_of_visitAll_error {legs : List Leg} {start after : Stage σ α} {e : Error}
    (failed : m.visitAll exec type singular legs start = (.error e, after)) :
    after.loaded = start.loaded ++ ((m.calls exec type singular legs start).filter
      fun c => (c.answer exec).isOk).map (·.leg.path) := by
  obtain ⟨before, leg, later, s, -, reaches, fails, made⟩ := visitAll_error failed
  have all_succeed : (m.calls exec type singular before start).filter
      (fun c => (c.answer exec).isOk) = m.calls exec type singular before start :=
    List.filter_eq_self.mpr fun c member => by
      rw [answer_of_visitAll_ok reaches c member]
      rfl
  have grown := loaded_of_visitAll_ok reaches
  rw [made, List.filter_append, all_succeed]
  rcases (visit_error fails).2 with ⟨-, none, rfl⟩ | ⟨c, call, ran⟩
  · simp [none, grown]
  · have member : c ∈ m.callsAt type singular leg s := by simp [call]
    obtain ⟨cause, answer, -, unchanged⟩ := Call.answer_of_run_error ran
    rw [unchanged, (mem_callsAt member).2.1, grown]
    simp [call, answer, Except.isOk, Except.toBool]

/-- No loader is called for the prefix of a leg without a relation. -/
theorem not_called_of_refusal {paths : List String} {leg : Leg} (listed : leg ∈ Leg.ofPaths paths)
    {e : Error} (refusal : m.Refusal type leg e) {start : Stage σ α} :
    ∀ c ∈ m.calls exec type singular (Leg.ofPaths paths) start, c.leg.path ≠ leg.path := by
  intro c member same
  obtain ⟨before, later, split, -, own⟩ := mem_calls member
  obtain ⟨f, r, leads, related, -⟩ := eq_of_mem_callsAt own
  have listed' : c.leg ∈ Leg.ofPaths paths := by simp [split]
  have one : c.leg = leg := Leg.eq_of_path_eq listed' listed same
  exact not_related_of_refusal refusal (one ▸ ⟨f, r, leads, related⟩)

end Model

end QueryBind
