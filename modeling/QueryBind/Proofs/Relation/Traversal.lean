/-
# QueryBind.Proofs.Relation.Traversal — loading as one walk over legs

Loading recurses into the children of a batch and puts them back afterwards. The same work is one
walk over the `Leg`s of all paths, in the order of the paths and of their segments, each of which
works on the top-level batch: `move` says what a leg has to do, `visit` does it, and `visitAll`
visits legs up to the first failure. The walk is the recursion (`visitAll_eq_load`), because what
is put back into a batch is found there again.
-/
import QueryBind.Proofs.Relation.Focus

namespace QueryBind

set_option autoImplicit false

variable {σ α : Type}

/-- A run in sequence is a run of the first action and one of what follows. -/
theorem Action.exists_of_run_bind {β γ : Type} {x : Action σ β} {f : β → Action σ γ}
    {t after : Trace σ} {c : γ} (run : (x >>= f).run t = (c, after)) :
    ∃ b between, x.run t = (b, between) ∧ (f b).run between = (c, after) :=
  ⟨_, _, rfl, run⟩

/-! ## Legs -/

/-- One segment of a load path, with the segments before it. -/
structure Leg where
  way : List String
  name : String

namespace Leg

/-- The dotted prefix that ends with the leg. -/
def path (leg : Leg) : String := ".".intercalate (leg.way ++ [leg.name])

/-- The legs of segments that go on from a way. -/
def along : (way segments : List String) → List Leg
  | _, [] => []
  | way, name :: rest => ⟨way, name⟩ :: along (way ++ [name]) rest

/-- The legs of all paths. -/
def ofPaths (paths : List String) : List Leg :=
  paths.flatMap fun path => along [] (Model.segments path)

end Leg

/-! ## The walk -/

/-- Where the walk stands: the top-level batch with all that is attached to it, the loaded
prefixes, and the world with its log. -/
structure Stage (σ α : Type) where
  objects : List α
  loaded : LoadState
  trace : Trace σ

/-- A call of a loader: the leg and the stage at which it is made, the part of the objects that the
loader is given, and the flag. -/
structure Call (σ α : Type) where
  leg : Leg
  stage : Stage σ α
  focus : Focus α
  relation : Relation σ α
  singular : Bool

/-- The objects that the loader is given. -/
def Call.batch (c : Call σ α) : List α := c.focus.batch c.stage.objects

/-- What a leg has to do. -/
inductive Move (σ α : Type) where
  /-- There is no object to load anything onto. -/
  | quiet
  | refused (e : Error)
  | known
  | call (c : Call σ α)

def Trace.log (t : Trace σ) (e : Event) : Trace σ := { t with events := t.events ++ [e] }

/-- The loader called, and its batch put back. -/
def Call.run (c : Call σ α) (exec : Executor σ) : Except Error Unit × Stage σ α :=
  let ((outcome, batch), trace) := (c.relation.load exec c.singular c.batch).run
    (c.stage.trace.log (.loadingRelationship c.leg.path c.batch.length c.singular))
  let objects := c.focus.put batch c.stage.objects
  match outcome with
  | .ok () => (.ok (), ⟨objects, c.stage.loaded ++ [c.leg.path], trace⟩)
  | .error e => (.error (e.inRelationship c.leg.name), ⟨objects, c.stage.loaded, trace⟩)

namespace Model

variable (m : Model σ α) (exec : Executor σ) (type : Nat) (singular : Bool)

/-- What a leg has to do at a stage. -/
def move (leg : Leg) (s : Stage σ α) : Move σ α :=
  match m.focus? type leg.way with
  | none => .quiet
  | some f =>
      if (f.batch s.objects).isEmpty then .quiet
      else
        match m.registry f.type with
        | none => .refused (.config (.noRelationships leg.path (m.schema.typeName f.type)))
        | some registry =>
            match registry.get? leg.name with
            | none =>
                .refused (.config (.unregistered leg.path leg.name (m.schema.typeName f.type)))
            | some relation =>
                if s.loaded.contains leg.path then .known
                else .call ⟨leg, s, f, relation, singular && f.toOne⟩

/-- One leg of the walk. -/
def visit (leg : Leg) (s : Stage σ α) : Except Error Unit × Stage σ α :=
  match m.move type singular leg s with
  | .quiet => (.ok (), s)
  | .refused e => (.error e, s)
  | .known => (.ok (), { s with trace := s.trace.log (.alreadyLoaded leg.path) })
  | .call c => c.run exec

/-- The legs in turn, up to the first failure. -/
def visitAll : List Leg → Stage σ α → Except Error Unit × Stage σ α
  | [], s => (.ok (), s)
  | leg :: rest, s =>
      match m.visit exec type singular leg s with
      | (.ok (), s) => visitAll rest s
      | (.error e, s) => (.error e, s)

variable {m exec type singular}

theorem visitAll_append (a b : List Leg) (s : Stage σ α) :
    m.visitAll exec type singular (a ++ b) s =
      match m.visitAll exec type singular a s with
      | (.ok (), s) => m.visitAll exec type singular b s
      | (.error e, s) => (.error e, s) := by
  induction a generalizing s with
  | nil => rfl
  | cons leg a ih =>
      simp only [List.cons_append, visitAll]
      rcases m.visit exec type singular leg s with ⟨e | ok, s⟩
      · rfl
      · exact ih s

/-! ## Legs behind an empty batch -/

theorem move_quiet {leg : Leg} {s : Stage σ α} (empty : m.reached type leg.way s.objects = []) :
    m.move type singular leg s = .quiet := by
  unfold move
  cases leads : m.focus? type leg.way with
  | none => rfl
  | some f => simp [batch_eq_reached leads, empty]

theorem visitAll_quiet {way : List String} (segments : List String) {s : Stage σ α}
    (empty : m.reached type way s.objects = []) :
    m.visitAll exec type singular (Leg.along way segments) s = (.ok (), s) := by
  induction segments generalizing way with
  | nil => rfl
  | cons name rest ih =>
      have quiet : m.move type singular ⟨way, name⟩ s = .quiet := move_quiet empty
      simp only [Leg.along, visitAll, visit, quiet]
      exact ih (reached_append_eq_nil empty [name])

/-! ## What the recursion does -/

/-- A run of one segment finds its prefix loaded, or calls the loader. -/
theorem loadSegment_cases {relation : Relation σ α} {name path : String} {targets : List α}
    {state : LoadState} {trace after : Trace σ} {p : LoadProgress α}
    (run : (loadSegment exec relation name path singular targets state).run trace = (p, after)) :
    (state.contains path = true ∧ p = ⟨.ok (), targets, state⟩ ∧
        after = trace.log (.alreadyLoaded path)) ∨
      ∃ outcome loaded, state.contains path = false ∧ loaded.length = targets.length ∧
        (relation.load exec singular targets).run
          (trace.log (.loadingRelationship path targets.length singular)) =
            ((outcome, loaded), after) ∧
        p = ⟨outcome.mapError (Error.inRelationship name), loaded,
          if outcome.isOk then state ++ [path] else state⟩ := by
  unfold loadSegment at run
  cases known : state.contains path with
  | true =>
      rw [if_pos known] at run
      obtain ⟨rfl, rfl⟩ := Prod.mk.inj run
      exact .inl ⟨rfl, rfl, rfl⟩
  | false =>
      rw [if_neg (ne_true_of_eq_false known)] at run
      obtain ⟨_, _, emitted, run⟩ := Action.exists_of_run_bind run
      obtain ⟨⟨outcome, loaded⟩, middle, called, run⟩ := Action.exists_of_run_bind run
      cases emitted
      have whole := relation.length_load exec singular targets
        (trace.log (.loadingRelationship path targets.length singular))
      rw [show (relation.load exec singular targets).run
        (trace.log (.loadingRelationship path targets.length singular)) = _ from called] at whole
      cases outcome with
      | error e =>
          obtain ⟨rfl, rfl⟩ := Prod.mk.inj run
          exact .inr ⟨.error e, loaded, rfl, whole, called, rfl⟩
      | ok done =>
          obtain ⟨rfl, rfl⟩ := Prod.mk.inj run
          exact .inr ⟨.ok done, loaded, rfl, whole, called, rfl⟩

/-- A run of a path finds no relation for its first segment, or loads the segment; it goes on with
the children, if the segment did not fail, is not the last one, and there are any. -/
theorem loadPath_cases {way rest : List String} {name : String} {targets : List α}
    {state : LoadState} {trace after : Trace σ} {p : LoadProgress α}
    (run : (m.loadPath exec type way (name :: rest) singular targets state).run trace =
      (p, after)) :
    (m.registry type = none ∧ after = trace ∧
        p = ⟨.error (.config (.noRelationships (Leg.mk way name).path (m.schema.typeName type))),
          targets, state⟩) ∨
      (∃ registry, m.registry type = some registry ∧ registry.get? name = none ∧ after = trace ∧
        p = ⟨.error (.config (.unregistered (Leg.mk way name).path name
          (m.schema.typeName type))), targets, state⟩) ∨
      ∃ registry relation q middle, m.registry type = some registry ∧
        registry.get? name = some relation ∧
        (loadSegment exec relation name (Leg.mk way name).path singular targets state).run trace =
          (q, middle) ∧
        ((∃ e, q.outcome = .error e ∧ p = q ∧ after = middle) ∨
          (q.outcome = .ok () ∧ (rest = [] ∨ relation.allChildren q.targets = []) ∧ p = q ∧
            after = middle) ∨
          ∃ below, q.outcome = .ok () ∧ relation.allChildren q.targets ≠ [] ∧
            (m.loadPath exec relation.child (way ++ [name]) rest (singular && relation.toOne)
              (relation.allChildren q.targets) q.state).run middle = (below, after) ∧
            p = { below with targets := relation.replaceAll q.targets below.targets }) := by
  simp only [loadPath] at run
  cases registered : m.registry type with
  | none =>
      simp only [registered] at run
      obtain ⟨rfl, rfl⟩ := Prod.mk.inj run
      exact .inl ⟨rfl, rfl, rfl⟩
  | some registry =>
      simp only [registered] at run
      cases named : registry.get? name with
      | none =>
          simp only [named] at run
          obtain ⟨rfl, rfl⟩ := Prod.mk.inj run
          exact .inr (.inl ⟨registry, rfl, named, rfl, rfl⟩)
      | some relation =>
          simp only [named] at run
          obtain ⟨q, middle, loaded, run⟩ := Action.exists_of_run_bind run
          refine .inr (.inr ⟨registry, relation, q, middle, rfl, named, loaded, ?_⟩)
          cases outcome : q.outcome with
          | error e =>
              simp only [outcome] at run
              obtain ⟨rfl, rfl⟩ := Prod.mk.inj run
              exact .inl ⟨e, rfl, rfl, rfl⟩
          | ok done =>
              simp only [outcome] at run
              split at run
              · next ended =>
                  obtain ⟨rfl, rfl⟩ := Prod.mk.inj run
                  exact .inr (.inl ⟨rfl, by simpa using ended, rfl, rfl⟩)
              · next goesOn =>
                  obtain ⟨below, last, descended, run⟩ := Action.exists_of_run_bind run
                  obtain ⟨rfl, rfl⟩ := Prod.mk.inj run
                  exact .inr (.inr ⟨below, rfl, by simp_all, descended, rfl⟩)

/-! ## The walk is the recursion -/

section Move

variable {leg : Leg} {s : Stage σ α} {f : Focus α} (leads : m.focus? type leg.way = some f)
  (some_object : f.batch s.objects ≠ [])

include leads some_object

theorem move_unrelated (unrelated : m.registry f.type = none) :
    m.move type singular leg s =
      .refused (.config (.noRelationships leg.path (m.schema.typeName f.type))) := by
  have inhabited : (f.batch s.objects).isEmpty = false := by simpa using some_object
  simp [move, leads, inhabited, unrelated]

theorem move_unnamed {registry : Registry σ α} (registered : m.registry f.type = some registry)
    (unnamed : registry.get? leg.name = none) :
    m.move type singular leg s =
      .refused (.config (.unregistered leg.path leg.name (m.schema.typeName f.type))) := by
  have inhabited : (f.batch s.objects).isEmpty = false := by simpa using some_object
  simp [move, leads, inhabited, registered, unnamed]

theorem move_named {registry : Registry σ α} (registered : m.registry f.type = some registry)
    {relation : Relation σ α} (named : registry.get? leg.name = some relation) :
    m.move type singular leg s =
      if s.loaded.contains leg.path then .known
      else .call ⟨leg, s, f, relation, singular && f.toOne⟩ := by
  have inhabited : (f.batch s.objects).isEmpty = false := by simpa using some_object
  simp [move, leads, inhabited, registered, named]

end Move

/-- One segment of the recursion, on the part of the objects in focus, is one leg of the walk. -/
theorem visit_eq_loadSegment (leg : Leg) {s : Stage σ α} {f : Focus α}
    (leads : m.focus? type leg.way = some f) (some_object : f.batch s.objects ≠ [])
    {registry : Registry σ α} (registered : m.registry f.type = some registry)
    {relation : Relation σ α} (named : registry.get? leg.name = some relation)
    {p : LoadProgress α} {after : Trace σ}
    (run : (loadSegment exec relation leg.name leg.path (singular && f.toOne) (f.batch s.objects)
      s.loaded).run s.trace = (p, after)) :
    m.visit exec type singular leg s =
        (p.outcome, ⟨f.put p.targets s.objects, p.state, after⟩) ∧
      p.targets.length = (f.batch s.objects).length := by
  rw [visit, move_named leads some_object registered named]
  rcases loadSegment_cases run with ⟨known, rfl, rfl⟩ | ⟨outcome, loaded, fresh, whole, called, rfl⟩
  · rw [if_pos known]
    exact ⟨by rw [f.put_batch], rfl⟩
  · rw [if_neg (ne_true_of_eq_false fresh)]
    refine ⟨?_, whole⟩
    simp only [Call.run, Call.batch, called]
    cases outcome <;> rfl

/-- The recursion on a path, on the part of the objects in focus, is the walk over its legs. -/
theorem visitAll_eq_loadPath {f : Focus α} {way : List String}
    (leads : m.focus? type way = some f) {s : Stage σ α} (some_object : f.batch s.objects ≠ [])
    (segments : List String) {p : LoadProgress α} {after : Trace σ}
    (run : (m.loadPath exec f.type way segments (singular && f.toOne) (f.batch s.objects)
      s.loaded).run s.trace = (p, after)) :
    m.visitAll exec type singular (Leg.along way segments) s =
        (p.outcome, ⟨f.put p.targets s.objects, p.state, after⟩) ∧
      p.targets.length = (f.batch s.objects).length := by
  induction segments generalizing f way s p after with
  | nil =>
      obtain ⟨rfl, rfl⟩ := Prod.mk.inj run
      exact ⟨by rw [f.put_batch]; rfl, rfl⟩
  | cons name rest ih =>
      rw [Leg.along, visitAll]
      rcases loadPath_cases run with ⟨registered, rfl, rfl⟩ | ⟨registry, registered, named, rfl, rfl⟩ |
        ⟨registry, relation, q, middle, registered, named, loaded, onward⟩
      · rw [visit, move_unrelated leads some_object registered, f.put_batch]
        exact ⟨rfl, rfl⟩
      · rw [visit, move_unnamed leads some_object registered named, f.put_batch]
        exact ⟨rfl, rfl⟩
      obtain ⟨visited, whole⟩ :=
        visit_eq_loadSegment ⟨way, name⟩ leads some_object registered named loaded
      have leads' : m.focus? type (way ++ [name]) = some (f.into relation) :=
        focusFrom?_into leads (by simp [relation?, registered, named])
      have children := Focus.batch_into_put (r := relation) whole
      rw [visited]
      rcases onward with ⟨e, failed, rfl, rfl⟩ | ⟨ok, ended, rfl, rfl⟩ |
        ⟨below, ok, some_child, descended, rfl⟩
      · rw [failed]
        exact ⟨rfl, whole⟩
      · rw [ok]
        refine ⟨?_, whole⟩
        rcases ended with rfl | childless
        · rfl
        · exact visitAll_quiet rest
            ((batch_eq_reached leads' _).symm.trans (children.trans childless))
      · rw [ok]
        rw [Bool.and_assoc, ← children] at descended
        have some_object' : (f.into relation).batch (f.put q.targets s.objects) ≠ [] := by
          rw [children]
          exact some_child
        obtain ⟨walked, -⟩ := ih leads' (s := ⟨f.put q.targets s.objects, q.state, middle⟩)
          some_object' descended
        refine ⟨walked.trans ?_, (Relation.length_replaceAll _ _).trans whole⟩
        rw [Focus.put_into_put whole]

theorem visitAll_eq_loadPaths (paths : List String) {targets : List α}
    (some_target : targets ≠ []) (state : LoadState) (trace : Trace σ) {p : LoadProgress α}
    {after : Trace σ}
    (run : (m.loadPaths exec type singular paths targets state).run trace = (p, after)) :
    m.visitAll exec type singular (Leg.ofPaths paths) ⟨targets, state, trace⟩ =
      (p.outcome, ⟨p.targets, p.state, after⟩) := by
  induction paths generalizing targets state trace with
  | nil =>
      obtain ⟨rfl, rfl⟩ := Prod.mk.inj run
      rfl
  | cons path rest ih =>
      simp only [loadPaths] at run
      obtain ⟨q, middle, first, run⟩ := Action.exists_of_run_bind run
      have start : (m.loadPath exec (Focus.top (α := α) type).type [] (segments path)
          (singular && (Focus.top (α := α) type).toOne) targets state).run trace = (q, middle) := by
        simpa only [Focus.top, Bool.and_true] using first
      obtain ⟨walked, whole⟩ := visitAll_eq_loadPath (f := Focus.top type) rfl
        (s := ⟨targets, state, trace⟩) some_target (segments path) start
      rw [Leg.ofPaths, List.flatMap_cons, visitAll_append, walked]
      cases outcome : q.outcome with
      | error e =>
          simp only [outcome] at run
          obtain ⟨rfl, rfl⟩ := Prod.mk.inj run
          rw [outcome]
          rfl
      | ok done =>
          obtain rfl : done = () := rfl
          simp only [outcome] at run
          have some_target' : q.targets ≠ [] := by
            intro none
            rw [none] at whole
            exact some_target (List.length_eq_zero_iff.mp whole.symm)
          exact ih some_target' q.state middle run

/-- **Loading is one walk over the legs of the paths**, for every run of a batch with objects. -/
theorem visitAll_eq_load (paths : List String) {targets : List α} (some_target : targets ≠ [])
    (state : LoadState) (trace : Trace σ) {p : LoadProgress α} {after : Trace σ}
    (run : (m.load exec type singular paths targets state).run trace = (p, after)) :
    m.visitAll exec type singular (Leg.ofPaths paths) ⟨targets, state, trace⟩ =
      (p.outcome, ⟨p.targets, p.state, after⟩) := by
  have inhabited : targets.isEmpty = false := by simpa using some_target
  refine visitAll_eq_loadPaths paths some_target state trace ?_
  simpa [load, inhabited] using run

end Model

end QueryBind
