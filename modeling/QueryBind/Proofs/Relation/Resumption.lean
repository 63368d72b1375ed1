/-
# QueryBind.Proofs.Relation.Resumption — loading that failed, run again

A leg that did not fail is `Settled`: run again, it has nothing to do. It stays so while the walk
goes on, because a later leg changes objects behind its own prefix only (`Model.beside_call`), and
the way of an earlier leg does not go through there: the legs on the way to a leg come before it
(`Leg.rooted_of_ofPaths`). So a second run comes to the leg that failed without a call
(`Model.walk_again`). The main statement, `failed_load_resumes`, says this of a run and the next
one, and what the first leaves behind.
-/
import QueryBind.Catalogue
import QueryBind.Executor.Script
import QueryBind.Proofs.Relation.Failure
import QueryBind.Proofs.Relation.Separation

namespace QueryBind

set_option autoImplicit false

variable {σ α : Type}

namespace Model

variable {m : Model σ α} {exec : Executor σ} {type : Nat} {singular : Bool}

/-! ## Legs that have nothing left to do -/

/-- There is nothing to load onto, or the leg's relation is there and its prefix is loaded. -/
def Settled (m : Model σ α) (type : Nat) (leg : Leg) (s : Stage σ α) : Prop :=
  m.reached type leg.way s.objects = [] ∨ (m.Related type leg ∧ leg.path ∈ s.loaded)

theorem Settled.mono {leg : Leg} {s s' : Stage σ α} (settled : m.Settled type leg s)
    (still : m.reached type leg.way s.objects = [] → m.reached type leg.way s'.objects = [])
    (grown : s.loaded ⊆ s'.loaded) : m.Settled type leg s' := by
  rcases settled with empty | ⟨related, known⟩
  · exact .inl (still empty)
  · exact .inr ⟨related, grown known⟩

/-- A settled leg does nothing but note that its prefix is loaded. -/
theorem visit_settled (exec : Executor σ) (singular : Bool) {leg : Leg} {s : Stage σ α}
    (settled : m.Settled type leg s) :
    m.callsAt type singular leg s = [] ∧ ∃ t, t.world = s.trace.world ∧
      m.visit exec type singular leg s = (.ok (), { s with trace := t }) := by
  by_cases empty : m.reached type leg.way s.objects = []
  · have quiet : m.move type singular leg s = .quiet := move_quiet empty
    exact ⟨by rw [callsAt, quiet], s.trace, rfl, by rw [visit, quiet]⟩
  · rcases settled with none | ⟨⟨f, r, leads, related⟩, known⟩
    · exact absurd none empty
    · have noted : m.move type singular leg s = .known := by
        rw [move_of_related leads related empty, if_pos (List.contains_iff_mem.mpr known)]
      exact ⟨by rw [callsAt, noted], s.trace.log (.alreadyLoaded leg.path), rfl,
        by rw [visit, noted]⟩

theorem visitAll_settled (exec : Executor σ) (singular : Bool) {legs : List Leg} {s : Stage σ α}
    (settled : ∀ leg ∈ legs, m.Settled type leg s) :
    m.calls exec type singular legs s = [] ∧ ∃ t, t.world = s.trace.world ∧
      m.visitAll exec type singular legs s = (.ok (), { s with trace := t }) := by
  induction legs generalizing s with
  | nil => exact ⟨rfl, s.trace, rfl, rfl⟩
  | cons leg rest ih =>
      obtain ⟨here, below⟩ := List.forall_mem_cons.mp settled
      obtain ⟨none, t, untouched, visited⟩ := visit_settled exec singular here
      obtain ⟨none', t', untouched', walked⟩ := ih (s := { s with trace := t }) below
      refine ⟨?_, t', untouched'.trans untouched, ?_⟩
      · rw [calls_of_ok visited, none, none', List.append_nil]
      · rw [visitAll, visited]
        exact walked

/-- A leg that did not fail is settled. -/
theorem settled_of_visit_ok {leg : Leg} {s after : Stage σ α}
    (ok : m.visit exec type singular leg s = (.ok (), after)) : m.Settled type leg after := by
  by_cases empty : m.reached type leg.way s.objects = []
  · rw [visit, move_quiet empty] at ok
    cases ok
    exact .inl empty
  rcases refusal_or_related empty with ⟨e, refusal⟩ | related
  · rw [visit, move_of_refusal refusal empty] at ok
    cases ok
  · refine .inr ⟨related, ?_⟩
    rcases visit_ok ok with ⟨-, none, -⟩ | ⟨-, known, -, same⟩ | ⟨c, -, -, -, -, grown⟩
    · exact absurd none empty
    · rw [same]
      exact known
    · rw [grown]
      exact List.mem_append_right _ (List.mem_singleton_self _)

/-- What a call changes, it changes behind its leg. -/
theorem beside_call {names : List String} (separate : m.Separate names exec) {leg : Leg}
    {s : Stage σ α} {c : Call σ α} (member : c ∈ m.callsAt type singular leg s)
    (known : ∀ name ∈ leg.way ++ [leg.name], name ∈ names) :
    m.Beside names type (leg.way ++ [leg.name]) s.objects (c.run exec).2.objects := by
  obtain ⟨f, r, leads, related, -, -, rfl⟩ := eq_of_mem_callsAt member
  obtain ⟨mentioned, named⟩ := List.forall_mem_append.mp known
  rw [Call.objects_run]
  refine beside_put separate leads mentioned (Call.length_reply _ exec) ?_
  exact beside_load separate (named leg.name (List.mem_singleton_self _)) related _ _ _

/-- A settled leg stays settled while other legs are visited, unless its way goes through a prefix
that is loaded there. -/
theorem settled_kept {names : List String} (separate : m.Separate names exec)
    {leg next : Leg} {s after : Stage σ α} (settled : m.Settled type leg s)
    (ok : m.visit exec type singular next s = (.ok (), after))
    (apart : m.callsAt type singular next s ≠ [] → ¬ next.way ++ [next.name] <+: leg.way)
    (known : ∀ name ∈ leg.way, name ∈ names)
    (known' : ∀ name ∈ next.way ++ [next.name], name ∈ names) : m.Settled type leg after := by
  rcases visit_ok ok with ⟨-, -, rfl⟩ | ⟨-, -, same, same'⟩ | ⟨c, call, -, -, -, grown⟩
  · exact settled
  · exact settled.mono (fun empty => by rw [same]; exact empty) (by rw [same']; exact fun _ => id)
  · have member : c ∈ m.callsAt type singular next s := by simp [call]
    have ran : c.run exec = (.ok (), after) := by
      rw [visit, move_of_mem_callsAt member] at ok
      exact ok
    have beside := beside_call separate member known'
    rw [ran] at beside
    refine settled.mono (fun empty => ?_) (by rw [grown]; exact List.subset_append_left _ _)
    have lengths := length_reached_of_beside beside (apart (by simp [call])) known
    rw [empty] at lengths
    exact List.length_eq_zero_iff.mp lengths

/-- In a walk that goes on from settled legs, these and the legs of the walk are settled. -/
theorem settled_of_visitAll_ok {names : List String} (separate : m.Separate names exec)
    (visited : List Leg) {legs : List Leg} {s after : Stage σ α}
    (settled : ∀ leg ∈ visited, m.Settled type leg s)
    (rooted : ∀ before later, visited ++ legs = before ++ later → Leg.Rooted before)
    (known : ∀ leg ∈ visited ++ legs, ∀ name ∈ leg.way ++ [leg.name], name ∈ names)
    (ok : m.visitAll exec type singular legs s = (.ok (), after)) :
    ∀ leg ∈ visited ++ legs, m.Settled type leg after := by
  induction legs generalizing visited s with
  | nil =>
      cases ok
      rw [List.append_nil]
      exact settled
  | cons next rest ih =>
      rw [visitAll] at ok
      rcases went : m.visit exec type singular next s with ⟨e | done, between⟩
      · simp [went] at ok
      rw [went] at ok
      rw [List.append_cons] at rooted known ⊢
      refine ih (visited ++ [next]) (fun leg member => ?_) rooted known ok
      rcases List.mem_append.mp member with earlier | here
      · have mentioned := known leg (List.mem_append_left _ member)
        have mentioned' := known next (by simp)
        refine settled_kept separate (settled leg earlier) went (fun calls within => ?_)
          (List.forall_mem_append.mp mentioned).1 mentioned'
        -- a leg on the way to a settled leg is settled, and makes no call
        have above : next ∈ visited :=
          rooted visited (next :: rest) (by simp) leg earlier next within
        exact calls (visit_settled exec singular (settled next above)).1
      · obtain rfl := List.mem_singleton.mp here
        exact settled_of_visit_ok went

/-! ## Running again -/

theorem objects_ne_nil {way : List String} {objects : List α}
    (some_object : m.reached type way objects ≠ []) : objects ≠ [] := by
  rintro rfl
  exact some_object (reached_nil type way)

/-- A loader that is called leaves objects behind, as it found some. -/
theorem objects_ne_nil_of_call {leg : Leg} {s : Stage σ α} {c : Call σ α}
    (member : c ∈ m.callsAt type singular leg s) (exec : Executor σ) :
    (c.run exec).2.objects ≠ [] := by
  obtain ⟨f, r, leads, -, some_object, -, rfl⟩ := eq_of_mem_callsAt member
  intro none
  have whole := Call.length_reply ⟨leg, s, f, r, singular && f.toOne⟩ exec
  have handed_back := f.batch_put whole
  rw [Call.objects_run] at none
  rw [none, batch_eq_reached leads, reached_nil] at handed_back
  rw [← handed_back, Call.batch, batch_eq_reached leads] at whole
  exact some_object (List.length_eq_zero_iff.mp whole.symm)

theorem objects_ne_nil_of_visit_error {leg : Leg} {s after : Stage σ α} {e : Error}
    (failed : m.visit exec type singular leg s = (.error e, after)) : after.objects ≠ [] := by
  obtain ⟨some_object, ⟨-, -, rfl⟩ | ⟨c, call, ran⟩⟩ := visit_error failed
  · exact objects_ne_nil some_object
  · have member : c ∈ m.callsAt type singular leg s := by simp [call]
    have left_behind := objects_ne_nil_of_call member exec
    rw [ran] at left_behind
    exact left_behind

/-- Where nothing changed but the log, a leg makes the same call again. -/
theorem callsAt_again {leg : Leg} {s : Stage σ α} {c : Call σ α}
    (member : c ∈ m.callsAt type singular leg s) (t : Trace σ) :
    m.callsAt type singular leg { s with trace := t } =
      [{ c with stage := { s with trace := t } }] := by
  obtain ⟨f, r, leads, related, some_object, fresh, rfl⟩ := eq_of_mem_callsAt member
  rw [callsAt, move_of_related (s := { s with trace := t }) leads related some_object,
    if_neg (mt List.contains_iff_mem.mp fresh)]

/-- A walk comes through settled legs to the next leg, without a call. -/
theorem walk_again (exec : Executor σ) (singular : Bool) {before : List Leg} {s : Stage σ α}
    (settled : ∀ leg ∈ before, m.Settled type leg s) (legs : List Leg) :
    ∃ t, t.world = s.trace.world ∧
      m.calls exec type singular (before ++ legs) s =
        m.calls exec type singular legs { s with trace := t } ∧
      m.visitAll exec type singular (before ++ legs) s =
        m.visitAll exec type singular legs { s with trace := t } := by
  obtain ⟨none, t, untouched, walked⟩ := visitAll_settled exec singular settled
  refine ⟨t, untouched, ?_, ?_⟩
  · rw [calls_append, none, walked, List.nil_append]
  · rw [visitAll_append, walked]

/-- The legs before the one that fails are settled there. -/
theorem settled_before {paths : List String} (separate : m.Separate (paths.flatMap segments) exec)
    {before later : List Leg} (split : Leg.ofPaths paths = before ++ later) {start s : Stage σ α}
    (reaches : m.visitAll exec type singular before start = (.ok (), s)) :
    ∀ leg ∈ before, m.Settled type leg s := by
  refine settled_of_visitAll_ok separate [] (by simp) (fun first rest parts => ?_)
    (fun leg member => ?_) reaches
  · have parts' : Leg.ofPaths paths = first ++ (rest ++ later) := by
      rw [split, ← List.append_assoc, ← parts, List.nil_append]
    exact Leg.rooted_of_ofPaths parts'
  · have listed : leg ∈ Leg.ofPaths paths := by
      rw [split]
      exact List.mem_append_left _ member
    exact Leg.name_mem listed

/-- A leg that was refused is refused again, and nothing else happens. -/
theorem refused_again (exec : Executor σ) (singular : Bool) {before : List Leg} {leg : Leg}
    {s : Stage σ α} (settled : ∀ l ∈ before, m.Settled type l s) {e : Error}
    (refusal : m.Refusal type leg e) (some_object : m.reached type leg.way s.objects ≠ [])
    (later : List Leg) :
    m.calls exec type singular (before ++ leg :: later) s = [] ∧ ∃ t, t.world = s.trace.world ∧
      m.visitAll exec type singular (before ++ leg :: later) s =
        (.error e, { s with trace := t }) := by
  obtain ⟨t, untouched, calls, walked⟩ := walk_again exec singular settled (leg :: later)
  have refused : m.move type singular leg { s with trace := t } = .refused e :=
    move_of_refusal refusal some_object
  have fails : m.visit exec type singular leg { s with trace := t } =
      (.error e, { s with trace := t }) := by
    rw [visit, refused]
  refine ⟨?_, t, untouched, ?_⟩
  · rw [calls, calls_of_error fails, callsAt, refused]
  · rw [walked, visitAll, fails]

/-- A leg that made a call makes it again, and it is the first one. -/
theorem called_again (exec : Executor σ) {before : List Leg} {leg : Leg} {s : Stage σ α}
    (settled : ∀ l ∈ before, m.Settled type l s) {c : Call σ α}
    (member : c ∈ m.callsAt type singular leg s) (later : List Leg) (trace : Trace σ) :
    ∃ c' rest, m.calls exec type singular (before ++ leg :: later) { s with trace } = c' :: rest ∧
      c'.leg = leg ∧ c'.relation = c.relation ∧ c'.batch = c.batch ∧
      c'.singular = c.singular := by
  obtain ⟨t, -, calls, -⟩ := walk_again exec singular (s := { s with trace }) settled
    (leg :: later)
  obtain ⟨f, r, -, -, -, -, rfl⟩ := eq_of_mem_callsAt member
  rw [calls, Model.calls, callsAt_again member t]
  exact ⟨_, _, rfl, rfl, rfl, rfl, rfl⟩

/-- **Loading fails at one leg, keeps what was loaded, and can be run again.** Of a run that fails:

* it is the walk over the legs of the paths, which goes up to one leg and finds objects there; every
  loader before that leg succeeds, and no loader is called after it;
* either there is no relation for the leg: the error is the bare one that says so and names the
  leg's prefix, and no loader is called for that prefix;
* or the loader of the leg fails: the error is the loader's own, wrapped once in the leg's name, and
  the leg's prefix is not loaded;
* the loaded prefixes grow by those whose loader succeeded;
* run again on what is left, with any executor and in any world, the paths call no loader for a
  prefix that is loaded.

And if the relations of the paths leave each other alone, the second run comes to the leg that
failed without a call: a leg without a relation gives the same error and nothing else happens; a
leg whose loader failed, but wrote nothing, makes the first call of the second run, for the same
objects as before. -/
theorem failed_load_resumes (m : Model σ α) (exec : Executor σ) (type : Nat) (singular : Bool)
    (paths : List String) (targets : List α) (state : LoadState) (trace : Trace σ)
    {p : LoadProgress α} {after : Trace σ} {e : Error}
    (run : (m.load exec type singular paths targets state).run trace = (p, after))
    (failed : p.outcome = .error e) :
    let legs := Leg.ofPaths paths
    let start : Stage σ α := ⟨targets, state, trace⟩
    let calls := m.calls exec type singular legs start
    let callsAgain (exec' : Executor σ) (trace' : Trace σ) :=
      m.calls exec' type singular legs ⟨p.targets, p.state, trace'⟩
    m.visitAll exec type singular legs start = (.error e, ⟨p.targets, p.state, after⟩) ∧
      p.state = state ++ (calls.filter fun c => (c.answer exec).isOk).map (·.leg.path) ∧
      (∀ exec' trace' q again,
        (m.load exec' type singular paths p.targets p.state).run trace' = (q, again) →
          m.visitAll exec' type singular legs ⟨p.targets, p.state, trace'⟩ =
              (q.outcome, ⟨q.targets, q.state, again⟩) ∧
            ∀ c ∈ callsAgain exec' trace', c.leg.path ∉ p.state) ∧
      ∃ before leg later s, legs = before ++ leg :: later ∧
        m.visitAll exec type singular before start = (.ok (), s) ∧
        m.reached type leg.way s.objects ≠ [] ∧
        (∀ c ∈ m.calls exec type singular before start, c.answer exec = .ok ()) ∧
        ((m.Refusal type leg e ∧
            calls = m.calls exec type singular before start ∧
            (∀ c ∈ calls, c.leg.path ≠ leg.path) ∧
            s = ⟨p.targets, p.state, after⟩ ∧
            (m.Separate (paths.flatMap segments) exec → ∀ exec' trace' q again,
              (m.load exec' type singular paths p.targets p.state).run trace' = (q, again) →
                callsAgain exec' trace' = [] ∧ q = ⟨.error e, p.targets, p.state⟩ ∧
                  again.world = trace'.world)) ∨
          ∃ c cause, calls = m.calls exec type singular before start ++ [c] ∧
            c.leg = leg ∧ c.stage = s ∧
            (∃ f, m.focus? type leg.way = some f ∧
              m.relation? f.type leg.name = some c.relation) ∧
            c.batch = m.reached type leg.way s.objects ∧
            c.answer exec = .error cause ∧ e = .eagerLoad leg.name cause ∧
            c.run exec = (.error e, ⟨p.targets, p.state, after⟩) ∧ leg.path ∉ p.state ∧
            (m.Separate (paths.flatMap segments) exec → c.relation.FailsClean exec →
              ∀ exec' trace', ∃ c' rest, callsAgain exec' trace' = c' :: rest ∧
                c'.leg = leg ∧ c'.relation = c.relation ∧ c'.batch = c.batch ∧
                c'.singular = c.singular)) := by
  intro legs start calls callsAgain
  have some_target : targets ≠ [] := by
    rintro rfl
    obtain ⟨rfl, -⟩ := Prod.mk.inj run
    cases failed
  have walked : m.visitAll exec type singular legs start =
      (.error e, ⟨p.targets, p.state, after⟩) :=
    (visitAll_eq_load paths some_target state trace run).trans (by rw [failed])
  obtain ⟨before, leg, later, s, split, reaches, fails, made⟩ := visitAll_error walked
  obtain ⟨some_object, how⟩ := visit_error fails
  have some_target' : p.targets ≠ [] := objects_ne_nil_of_visit_error fails
  refine ⟨walked, loaded_of_visitAll_error walked, fun exec' trace' q again run' =>
    ⟨visitAll_eq_load paths some_target' p.state trace' run', (calls_once legs _).2⟩,
    before, leg, later, s, split, reaches, some_object, answer_of_visitAll_ok reaches, ?_⟩
  rcases how with ⟨refusal, none, rfl⟩ | ⟨c, call, ran⟩
  · have listed : leg ∈ Leg.ofPaths paths := by
      rw [show Leg.ofPaths paths = before ++ leg :: later from split]
      simp
    refine .inl ⟨refusal, by rw [show calls = _ from made, none, List.append_nil],
      not_called_of_refusal listed refusal, rfl, fun separate exec' trace' q again run' => ?_⟩
    have settled := settled_before separate split reaches
    obtain ⟨quiet, t, untouched, walked'⟩ := refused_again exec' singular
      (s := ⟨p.targets, p.state, trace'⟩) settled refusal some_object later
    rw [← split] at quiet
    rw [← split, visitAll_eq_load paths some_target' p.state trace' run'] at walked'
    obtain ⟨outcome, stage⟩ := Prod.mk.inj walked'
    obtain ⟨objects, loaded, rfl⟩ := Stage.mk.inj stage
    refine ⟨quiet, ?_, untouched⟩
    obtain ⟨outcome', targets', state'⟩ := q
    rw [show outcome' = _ from outcome, show targets' = _ from objects,
      show state' = _ from loaded]
  · have member : c ∈ m.callsAt type singular leg s := by simp [call]
    obtain ⟨own, here, fresh, related, batch, -, -⟩ := mem_callsAt member
    obtain ⟨cause, answer, wrapped, loaded⟩ := Call.answer_of_run_error ran
    have same : p.state = s.loaded := loaded.trans (by rw [here])
    refine .inr ⟨c, cause, by rw [show calls = _ from made, call], own, here, related, batch,
      answer, own ▸ wrapped, ran, same ▸ fresh, fun separate clean exec' trace' => ?_⟩
    have unwritten : p.targets = s.objects := by
      have objects := Call.objects_run_of_clean clean answer
      rw [ran, here] at objects
      exact objects
    rw [show callsAgain exec' trace' = m.calls exec' type singular legs
      ⟨p.targets, p.state, trace'⟩ from rfl, unwritten, same, split]
    exact called_again exec' (settled_before separate split reaches) member later trace'

end Model

namespace Catalogue

section

variable {σ : Type} {exec : Executor σ}

theorem Object.children_withChildren_of_ne {link other : Nat} (apart : link ≠ other)
    (cs : List Object) (o : Object) :
    (o.withChildren link cs).children other = o.children other := by
  obtain ⟨record, links⟩ := o
  simp only [Object.withChildren, Object.children, Object.linked, List.getElem?_set_ne apart]

/-- A fetch attaches children at its own link only. -/
theorem map_children_fetch (s : Source) (toOne : Bool) {link other : Nat} (apart : link ≠ other)
    (singular : Bool) (targets : List Object) (trace : Trace σ) :
    ((fetch s toOne link exec singular targets).run trace).1.2.map (Object.children other) =
      targets.map (Object.children other) := by
  simp only [fetch, StateT.run_bind]
  generalize StateT.run (Query.records _ exec schema s.child) trace = answer
  rcases answer with ⟨e | records, after⟩
  · rfl
  cases toOne with
  | false =>
      refine List.map_map.trans (List.map_congr_left fun t _ => ?_)
      simp only [Function.comp]
      split
      · rfl
      · exact Object.children_withChildren_of_ne apart _ t
  | true =>
      refine List.map_map.trans (List.map_congr_left fun t _ => ?_)
      simp only [Function.comp]
      split
      · exact Object.children_withChildren_of_ne apart _ t
      · rfl

/-- The relations of a few paths, each at a link of its own. -/
theorem relation?_cases {type : Nat} {name : String} {r : Relation σ Object}
    (mentioned : name ∈ ["Comments", "Author", "Broken"])
    (related : model.relation? type name = some r) :
    (type = video ∧ name = "Comments" ∧ r = many 1 ⟨comment, "comments", "video_id", 0, 1⟩) ∨
      (type = video ∧ name = "Broken" ∧ r = failing user true 0 (.other "boom")) ∨
      (type = comment ∧ name = "Author" ∧ r = one 0 ⟨user, "users", "id", 2, 0⟩) := by
  simp only [List.mem_cons, List.not_mem_nil, or_false] at mentioned
  by_cases top : type = video
  · subst top
    rcases mentioned with rfl | rfl | rfl
    · exact .inl ⟨rfl, rfl, (Option.some.inj related).symm⟩
    · cases related
    · exact .inr (.inl ⟨rfl, rfl, (Option.some.inj related).symm⟩)
  by_cases below : type = comment
  · subst below
    rcases mentioned with rfl | rfl | rfl
    · cases related
    · exact .inr (.inr ⟨rfl, rfl, (Option.some.inj related).symm⟩)
    · cases related
  · unfold Model.relation? model registry at related
    simp only [if_neg top, if_neg below] at related
    split at related
    · rcases mentioned with rfl | rfl | rfl <;> cases related
    · split at related
      · rcases mentioned with rfl | rfl | rfl <;> cases related
      · split at related
        · cases related
        · cases related

theorem separate_of_subset {names : List String} (few : names ⊆ ["Comments", "Author", "Broken"]) :
    (model : Model σ Object).Separate names exec := by
  intro type name other r r' mentioned mentioned' different related related'
  rcases relation?_cases (few mentioned) related with
    ⟨rfl, rfl, rfl⟩ | ⟨rfl, rfl, rfl⟩ | ⟨rfl, rfl, rfl⟩
  · rcases relation?_cases (few mentioned') related' with
      ⟨-, rfl, -⟩ | ⟨-, rfl, rfl⟩ | ⟨none, -⟩
    · exact absurd rfl different
    · exact ⟨map_children_fetch _ false (by decide),
        fun _ => Object.children_withChildren_of_ne (by decide) _ _⟩
    · cases none
  · rcases relation?_cases (few mentioned') related' with
      ⟨-, rfl, rfl⟩ | ⟨-, rfl, -⟩ | ⟨none, -⟩
    · exact ⟨fun _ _ _ => rfl, fun _ => Object.children_withChildren_of_ne (by decide) _ _⟩
    · exact absurd rfl different
    · cases none
  · rcases relation?_cases (few mentioned') related' with
      ⟨none, -⟩ | ⟨none, -⟩ | ⟨-, rfl, -⟩
    · cases none
    · cases none
    · exact absurd rfl different

end

/-- Loading that ends at a relation whose loader fails. -/
def brokenPaths : List String := ["Comments.Author", "Broken"]

/-- Loading that ends at a name that comments do not have. -/
def misplacedPaths : List String := ["Comments.Broken"]

def endedRun (paths : List String) : LoadProgress Object × Trace Script :=
  (model.load Script.executor video true paths commented.objects commented.loaded).run
    commented.trace

def failure? (p : LoadProgress Object) : Option Error :=
  match p.outcome with
  | .error e => some e
  | .ok () => none

theorem outcome_of_failure? {p : LoadProgress Object} {e : Error} (failed : failure? p = some e) :
    p.outcome = .error e := by
  unfold failure? at failed
  split at failed
  · next same => rw [same, Option.some.inj failed]
  · cases failed

theorem brokenRun_fails :
    (endedRun brokenPaths).1.outcome = .error (.eagerLoad "Broken" (.other "boom")) ∧
      (endedRun brokenPaths).1.state = ["User", "Comments", "Comments.Author"] :=
  ⟨outcome_of_failure? (by decide +kernel), by decide +kernel⟩

theorem misplacedRun_fails :
    (endedRun misplacedPaths).1.outcome =
        .error (.config (.unregistered "Comments.Broken" "Broken" "Comment")) ∧
      (endedRun misplacedPaths).1.state = ["User", "Comments"] :=
  ⟨outcome_of_failure? (by decide +kernel), by decide +kernel⟩

/-- The comments and their authors are not loaded again. A relation whose loader fails is the first
to be called for in the second run; a name without a relation is refused again. -/
theorem ended_runs_again :
    let m : Model Script Object := model
    let refused : Error := .config (.unregistered "Comments.Broken" "Broken" "Comment")
    (∃ p after, endedRun brokenPaths = (p, after) ∧
      p.outcome = .error (.eagerLoad "Broken" (.other "boom")) ∧
      p.state = ["User", "Comments", "Comments.Author"] ∧
      ∀ exec' trace', ∃ c rest,
        m.calls exec' video true (Leg.ofPaths brokenPaths) ⟨p.targets, p.state, trace'⟩ =
          c :: rest ∧ c.leg.name = "Broken") ∧
    ∃ p after, endedRun misplacedPaths = (p, after) ∧
      p.outcome = .error refused ∧ p.state = ["User", "Comments"] ∧
      ∀ exec' trace' q again,
        (m.load exec' video true misplacedPaths p.targets p.state).run trace' = (q, again) →
        m.calls exec' video true (Leg.ofPaths misplacedPaths) ⟨p.targets, p.state, trace'⟩ = [] ∧
          q.outcome = .error refused ∧ again.world = trace'.world := by
  intro m refused
  constructor
  · obtain ⟨failed, loaded⟩ := brokenRun_fails
    rcases run : endedRun brokenPaths with ⟨p, after⟩
    rw [run] at failed loaded
    refine ⟨p, after, rfl, failed, loaded, fun exec' trace' => ?_⟩
    obtain ⟨-, -, -, before, leg, later, s, -, -, -, -, how⟩ := Model.failed_load_resumes m
      Script.executor video true brokenPaths commented.objects commented.loaded commented.trace
      run failed
    rcases how with ⟨⟨f, -, ⟨-, bare⟩ | ⟨registry, -, -, bare⟩⟩, -⟩ |
      ⟨c, cause, -, -, -, ⟨f, -, related⟩, -, -, wrapped, -, -, called⟩
    · cases bare
    · cases bare
    · have name : "Broken" = leg.name := (Error.eagerLoad.inj wrapped).1
      rw [← name] at related
      have clean : c.relation.FailsClean Script.executor := by
        rcases relation?_cases (by simp) related with ⟨-, other, -⟩ | ⟨-, -, same⟩ | ⟨-, other, -⟩
        · exact absurd other (by decide)
        · rw [same]
          exact fun _ _ _ _ _ => rfl
        · exact absurd other (by decide)
      obtain ⟨c', rest, first, own, -⟩ :=
        called (separate_of_subset (by decide +kernel)) clean exec' trace'
      exact ⟨c', rest, first, by rw [own, ← name]⟩
  · obtain ⟨failed, loaded⟩ := misplacedRun_fails
    rcases run : endedRun misplacedPaths with ⟨p, after⟩
    rw [run] at failed loaded
    refine ⟨p, after, rfl, failed, loaded, fun exec' trace' q again run' => ?_⟩
    obtain ⟨-, -, -, before, leg, later, s, -, -, -, -, how⟩ := Model.failed_load_resumes m
      Script.executor video true misplacedPaths commented.objects commented.loaded commented.trace
      run failed
    rcases how with ⟨-, -, -, -, refused⟩ | ⟨c, cause, -, -, -, -, -, -, wrapped, -⟩
    · obtain ⟨none, same, untouched⟩ :=
        refused (separate_of_subset (by decide +kernel)) exec' trace' q again run'
      exact ⟨none, by rw [same], untouched⟩
    · cases wrapped

end Catalogue

end QueryBind
