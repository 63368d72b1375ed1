/-
# QueryBind.Proofs.Relation.PathSets — load paths are a set

Where relations keep to their own fields, what a leg does to the objects and to the set of loaded
prefixes is one function of both (`Model.advance`), whatever the world answers. A walk comes to what
its legs come to without repetition (`Model.exists_order`), because a leg that was visited has
nothing left to do. Two legs commute unless one is on the way to the other (`Model.advance_comm`),
and then they stand in the same order in every walk; so two walks over the same legs come to the
same (`List.foldl_eq_of_perm`). The main statement, `load_paths_as_set`, says this of two runs.
-/
import Mathlib.Data.Finset.Insert
import QueryBind.Proofs.Data.List
import QueryBind.Proofs.Relation.Fields
import QueryBind.Proofs.Relation.Resumption

namespace QueryBind

set_option autoImplicit false

variable {σ α κ φ : Type}

/-! ## Prefixes -/

namespace Model

/-- The dotted prefixes of load paths, of each path from the shortest to the path itself. -/
def prefixes (paths : List String) : List String :=
  paths.flatMap fun path => (segments path).inits.tail.map (String.intercalate ".")

end Model

namespace Leg

theorem map_path_along (way segments : List String) :
    (along way segments).map path =
      segments.inits.tail.map fun more => ".".intercalate (way ++ more) := by
  induction segments generalizing way with
  | nil => rfl
  | cons name rest ih =>
      have inits : rest.inits = [] :: rest.inits.tail := by
        cases rest <;> rfl
      rw [along, List.map_cons, ih, List.inits_cons, List.tail_cons, inits]
      simp [path, Function.comp_def]

/-- The prefixes are spelled by the legs. -/
theorem map_path_ofPaths (paths : List String) :
    (ofPaths paths).map path = Model.prefixes paths := by
  simp [ofPaths, Model.prefixes, List.map_flatMap, map_path_along]

/-- A leg goes a part of the way and the name of another one only if it is on the way there. -/
theorem not_prefix_concat {leg other : Leg} (different : leg ≠ other)
    (apart : ¬ leg.way ++ [leg.name] <+: other.way) :
    ¬ leg.way ++ [leg.name] <+: other.way ++ [other.name] := by
  intro within
  rcases List.prefix_concat_iff.mp within with whole | further
  · exact different (eq_of_concat_eq whole)
  · exact apart further

theorem ofPaths_subset {paths paths' : List String}
    (within : Model.prefixes paths ⊆ Model.prefixes paths') : ofPaths paths ⊆ ofPaths paths' := by
  intro leg member
  have spelled : leg.path ∈ Model.prefixes paths' :=
    within (map_path_ofPaths paths ▸ List.mem_map_of_mem member)
  rw [← map_path_ofPaths] at spelled
  obtain ⟨other, member', same⟩ := List.mem_map.mp spelled
  have one : other = leg := eq_of_concat_eq (by
    rw [← segments_path member, ← segments_path member', same])
  exact one ▸ member'

end Leg

/-! ## What a leg comes to -/

/-- What is left of a stage without the world and its log, and without the order of loading. -/
structure View (α : Type) where
  objects : List α
  loaded : Finset String

def Stage.view (s : Stage σ α) : View α := ⟨s.objects, s.loaded.toFinset⟩

namespace Model

section

variable (m : Model σ α) (fields : Fields α κ φ)
  (value : (type : Nat) → (name : String) → κ → φ → φ) (type : Nat)

/-- A leg finds nothing to load onto, or its prefix loaded. -/
def idle (v : View α) (leg : Leg) : Bool :=
  (m.reached type leg.way v.objects).isEmpty || decide (leg.path ∈ v.loaded)

/-- What a leg comes to, where relations keep to their own fields. -/
def advance (v : View α) (leg : Leg) : View α :=
  if m.idle type v leg then v
  else ⟨v.objects.map (m.effect fields value type leg.way leg.name), insert leg.path v.loaded⟩

variable {m fields value type} {v : View α} {leg : Leg}

theorem advance_of_idle (idle : m.idle type v leg = true) :
    m.advance fields value type v leg = v :=
  if_pos idle

theorem advance_of_busy (busy : m.idle type v leg = false) :
    m.advance fields value type v leg =
      ⟨v.objects.map (m.effect fields value type leg.way leg.name), insert leg.path v.loaded⟩ :=
  if_neg (ne_true_of_eq_false busy)

end

variable {m : Model σ α} {names : List String} {exec : Executor σ} {fields : Fields α κ φ}
  {value : (type : Nat) → (name : String) → κ → φ → φ} {type : Nat} {singular : Bool}

/-- The leg calls the loader of its relation, or has nothing to do. -/
theorem visit_advances (own : m.OwnFields names exec fields value) (singular : Bool) {leg : Leg}
    (related : m.Related type leg) (known : ∀ name ∈ leg.way ++ [leg.name], name ∈ names)
    (s : Stage σ α) :
    ∃ after, m.visit exec type singular leg s = (.ok (), after) ∧
      after.view = m.advance fields value type s.view leg := by
  by_cases empty : m.reached type leg.way s.objects = []
  · have idle : m.idle type s.view leg = true := by simp [idle, Stage.view, empty]
    exact ⟨s, by rw [visit, move_quiet empty], (advance_of_idle idle).symm⟩
  obtain ⟨f, r, leads, related⟩ := related
  have moves : m.move type singular leg s = _ := move_of_related leads related empty
  by_cases loaded : leg.path ∈ s.loaded
  · rw [if_pos (List.contains_iff_mem.mpr loaded)] at moves
    have idle : m.idle type s.view leg = true := by simp [idle, Stage.view, loaded]
    exact ⟨{ s with trace := s.trace.log (.alreadyLoaded leg.path) }, by rw [visit, moves],
      (advance_of_idle idle).symm⟩
  · rw [if_neg (mt List.contains_iff_mem.mp loaded)] at moves
    have busy : m.idle type s.view leg = false := by simp [idle, Stage.view, empty, loaded]
    have listed : leg.name ∈ names :=
      known leg.name (List.mem_append_right _ (List.mem_singleton_self _))
    have owns := own f.type leg.name r listed related
    let c : Call σ α := ⟨leg, s, f, r, singular && f.toOne⟩
    have reply : (c.reply exec).1 = (.ok (), c.batch.map
        (fields.edit f.type leg.name (value f.type leg.name))) := owns.load _ _ _
    have answer : c.answer exec = .ok () := congrArg Prod.fst reply
    refine ⟨(c.run exec).2, ?_, ?_⟩
    · rw [visit, moves]
      show c.run exec = _
      rw [Call.run_eq, answer]
      rfl
    · rw [advance_of_busy busy, Call.run_eq, answer, reply]
      have objects : f.put _ s.objects =
          s.objects.map (m.effect fields value type leg.way leg.name) :=
        put_map_edit leads leg.name s.objects
      have grown : (s.loaded ++ [leg.path]).toFinset = insert leg.path s.loaded.toFinset := by
        ext
        simp [or_comm]
      exact congrArg₂ View.mk objects grown

/-! ## Legs that commute -/

/-- A leg does not change what another one has to do, unless it is on the way there. -/
theorem idle_advance (own : m.OwnFields names exec fields value) {leg other : Leg}
    (related : m.Related type leg) (known : ∀ name ∈ leg.way ++ [leg.name], name ∈ names)
    (known' : ∀ name ∈ other.way ++ [other.name], name ∈ names) (different : other.path ≠ leg.path)
    (apart : ¬ leg.way ++ [leg.name] <+: other.way) (v : View α) :
    m.idle type (m.advance fields value type v leg) other = m.idle type v other := by
  rw [advance]
  split
  · rfl
  · obtain ⟨f, -, leads, -⟩ := related
    have lengths := length_reached_of_beside (beside_effect own leads known v.objects) apart
      (List.forall_mem_append.mp known').1
    have same (xs ys : List α) (lengths : xs.length = ys.length) : xs.isEmpty = ys.isEmpty := by
      rw [Bool.eq_iff_iff, List.isEmpty_iff_length_eq_zero, List.isEmpty_iff_length_eq_zero,
        lengths]
    simp only [idle, same _ _ lengths, Finset.mem_insert, different, false_or]

theorem advance_comm (own : m.OwnFields names exec fields value) {leg other : Leg}
    (related : m.Related type leg) (related' : m.Related type other)
    (known : ∀ name ∈ leg.way ++ [leg.name], name ∈ names)
    (known' : ∀ name ∈ other.way ++ [other.name], name ∈ names) (different : leg.path ≠ other.path)
    (apart : ¬ leg.way ++ [leg.name] <+: other.way)
    (apart' : ¬ other.way ++ [other.name] <+: leg.way) (v : View α) :
    m.advance fields value type (m.advance fields value type v leg) other =
      m.advance fields value type (m.advance fields value type v other) leg := by
  have still := idle_advance own related known known' different.symm apart v
  have still' := idle_advance own related' known' known different apart' v
  cases first : m.idle type v leg with
  | true =>
      rw [first] at still'
      rw [advance_of_idle first, advance_of_idle still']
  | false =>
      rw [first] at still'
      cases second : m.idle type v other with
      | true =>
          rw [second] at still
          rw [advance_of_idle second, advance_of_idle still]
      | false =>
          rw [second] at still
          rw [advance_of_busy still, advance_of_busy still', advance_of_busy first,
            advance_of_busy second]
          refine congrArg₂ View.mk ?_ (Finset.insert_comm _ _ _)
          simp only [List.map_map]
          have away := Leg.not_prefix_concat (fun same => different (congrArg Leg.path same)) apart
          have away' :=
            Leg.not_prefix_concat (fun same => different (congrArg Leg.path same.symm)) apart'
          exact List.map_congr_left fun x _ => effect_comm own known' known away' away x

/-! ## Walks without repetition -/

/-- A walk comes to what its legs come to, each taken once, where it stands first. -/
theorem exists_order (own : m.OwnFields names exec fields value) (singular : Bool)
    {legs : List Leg}
    (rooted : ∀ before later, legs = before ++ later → Leg.Rooted before)
    (related : ∀ leg ∈ legs, m.Related type leg)
    (known : ∀ leg ∈ legs, ∀ name ∈ leg.way ++ [leg.name], name ∈ names) (start : Stage σ α) :
    ∃ (order : List Leg) (s : Stage σ α), (∀ leg, leg ∈ order ↔ leg ∈ legs) ∧ order.Nodup ∧
      order.Pairwise (fun leg later => ¬ later.way ++ [later.name] <+: leg.way) ∧
      m.visitAll exec type singular legs start = (.ok (), s) ∧
      s.view = order.foldl (m.advance fields value type) start.view := by
  induction legs using List.reverseRecOn with
  | nil => exact ⟨[], start, by simp, List.nodup_nil, List.Pairwise.nil, rfl, rfl⟩
  | append_singleton legs leg ih =>
      obtain ⟨related, here⟩ := List.forall_mem_append.mp related
      obtain ⟨known', mentioned⟩ := List.forall_mem_append.mp known
      have rooted' : ∀ before later, legs = before ++ later → Leg.Rooted before :=
        fun before later split => rooted before (later ++ [leg]) (by rw [split, List.append_assoc])
      obtain ⟨order, s, same, once, ordered, walked, comes⟩ := ih rooted' related known'
      by_cases visited : leg ∈ legs
      · -- a leg that was visited has nothing left to do
        have settled : m.Settled type leg s := settled_of_visitAll_ok (separate_of_ownFields own) []
          (by simp) rooted' known' walked leg visited
        obtain ⟨-, t, -, quiet⟩ := visit_settled exec singular settled
        refine ⟨order, { s with trace := t }, fun other => ?_, once, ordered, ?_, comes⟩
        · rw [same, List.mem_append, List.mem_singleton]
          exact ⟨.inl, fun listed => listed.elim id fun one => one ▸ visited⟩
        · simp only [visitAll_append, walked, visitAll, quiet]
      · obtain ⟨after, goes, advanced⟩ := visit_advances own singular
          (here leg (List.mem_singleton_self _)) (mentioned leg (List.mem_singleton_self _)) s
        refine ⟨order ++ [leg], after, fun other => ?_, ?_, ?_, ?_, ?_⟩
        · rw [List.mem_append, List.mem_append, same]
        · refine List.nodup_append'.mpr ⟨once, List.nodup_singleton leg, ?_⟩
          exact List.disjoint_singleton.mpr fun listed => visited ((same leg).mp listed)
        · refine List.pairwise_append.mpr ⟨ordered, List.pairwise_singleton _ _, ?_⟩
          intro earlier listed later one within
          obtain rfl := List.mem_singleton.mp one
          exact visited (rooted' legs [] (List.append_nil _).symm earlier ((same earlier).mp listed)
            later within)
        · simp only [visitAll_append, walked, visitAll, goes]
        · rw [List.foldl_append, ← comes, advanced]
          rfl

/-- Two walks over the same legs, from the same objects and loaded prefixes, come to the same. -/
theorem visitAll_same_legs (own : m.OwnFields names exec fields value) (singular : Bool)
    {legs legs' : List Leg}
    (rooted : ∀ before later, legs = before ++ later → Leg.Rooted before)
    (rooted' : ∀ before later, legs' = before ++ later → Leg.Rooted before)
    (related : ∀ leg ∈ legs, m.Related type leg)
    (known : ∀ leg ∈ legs, ∀ name ∈ leg.way ++ [leg.name], name ∈ names)
    (spelled : ∀ leg ∈ legs, ∀ other ∈ legs, leg.path = other.path → leg = other)
    (same : ∀ leg, leg ∈ legs ↔ leg ∈ legs') {start start' : Stage σ α}
    (begin : start.view = start'.view) :
    ∃ s s', m.visitAll exec type singular legs start = (.ok (), s) ∧
      m.visitAll exec type singular legs' start' = (.ok (), s') ∧ s.view = s'.view := by
  obtain ⟨order, s, members, once, ordered, walked, comes⟩ :=
    exists_order own singular rooted related known start
  obtain ⟨order', s', members', once', ordered', walked', comes'⟩ :=
    exists_order own singular rooted' (fun leg listed => related leg ((same leg).mpr listed))
      (fun leg listed => known leg ((same leg).mpr listed)) start'
  have perm : order.Perm order' := (List.perm_ext_iff_of_nodup once once').mpr fun leg =>
    (members leg).trans ((same leg).trans (members' leg).symm)
  refine ⟨s, s', walked, walked', ?_⟩
  rw [comes, comes', ← begin]
  refine List.foldl_eq_of_perm perm once ordered ordered' (fun leg listed other listed' different apart
    apart' v => ?_) start.view
  have member := (members leg).mp listed
  have member' := (members other).mp listed'
  have unlike : leg.path ≠ other.path := fun one =>
    different (spelled leg member other member' one)
  exact advance_comm own (related leg member) (related other member') (known leg member)
    (known other member') unlike apart apart' v

/-- A walk that does not fail calls for the prefixes that it finds unloaded and leaves loaded. -/
theorem mem_called_iff {legs : List Leg} {start after : Stage σ α}
    (ok : m.visitAll exec type singular legs start = (.ok (), after)) (path : String) :
    path ∈ (m.calls exec type singular legs start).map (·.leg.path) ↔
      path ∈ after.loaded ∧ path ∉ start.loaded := by
  rw [loaded_of_visitAll_ok ok, List.mem_append]
  constructor
  · intro called
    obtain ⟨c, member, rfl⟩ := List.mem_map.mp called
    exact ⟨.inr called, (calls_once legs start).2 c member⟩
  · rintro ⟨before | called, fresh⟩
    · exact absurd before fresh
    · exact called

/-- **Load paths are a set.** Where relations keep to their own fields, let two lists of registered
paths have the same prefixes, in any order and with any repetition, and be run on the same objects
and loaded prefixes in any two worlds:

* both runs succeed, and leave the same objects;
* each is the walk over the legs of its paths, and the loaded prefixes grow by those that are called
  for;
* each calls for no prefix twice, and both call for the same prefixes. -/
theorem load_paths_as_set (m : Model σ α) (exec : Executor σ) (fields : Fields α κ φ)
    (value : (type : Nat) → (name : String) → κ → φ → φ) (type : Nat) (singular : Bool)
    {paths paths' : List String} (own : m.OwnFields (paths.flatMap segments) exec fields value)
    (registered : ∀ leg ∈ Leg.ofPaths paths, m.Related type leg)
    (same : ∀ path, path ∈ prefixes paths ↔ path ∈ prefixes paths') {targets : List α}
    (some_target : targets ≠ []) (state : LoadState) (trace trace' : Trace σ)
    {p p' : LoadProgress α} {after after' : Trace σ}
    (run : (m.load exec type singular paths targets state).run trace = (p, after))
    (run' : (m.load exec type singular paths' targets state).run trace' = (p', after')) :
    let calls := m.calls exec type singular (Leg.ofPaths paths) ⟨targets, state, trace⟩
    let calls' := m.calls exec type singular (Leg.ofPaths paths') ⟨targets, state, trace'⟩
    p.outcome = .ok () ∧ p'.outcome = .ok () ∧ p.targets = p'.targets ∧
      m.visitAll exec type singular (Leg.ofPaths paths) ⟨targets, state, trace⟩ =
        (.ok (), ⟨p.targets, p.state, after⟩) ∧
      m.visitAll exec type singular (Leg.ofPaths paths') ⟨targets, state, trace'⟩ =
        (.ok (), ⟨p'.targets, p'.state, after'⟩) ∧
      p.state = state ++ calls.map (·.leg.path) ∧ p'.state = state ++ calls'.map (·.leg.path) ∧
      (calls.map (·.leg.path)).Nodup ∧ (calls'.map (·.leg.path)).Nodup ∧
      (calls.map (·.leg.path)).Perm (calls'.map (·.leg.path)) := by
  intro calls calls'
  have legs : ∀ leg, leg ∈ Leg.ofPaths paths ↔ leg ∈ Leg.ofPaths paths' := fun leg =>
    ⟨fun listed => Leg.ofPaths_subset (fun path => (same path).mp) listed,
      fun listed => Leg.ofPaths_subset (fun path => (same path).mpr) listed⟩
  let start : Stage σ α := ⟨targets, state, trace⟩
  let start' : Stage σ α := ⟨targets, state, trace'⟩
  have begin : start.view = start'.view := rfl
  obtain ⟨s, s', walked, walked', alike⟩ := visitAll_same_legs own singular
    (fun before later => Leg.rooted_of_ofPaths) (fun before later => Leg.rooted_of_ofPaths)
    registered (fun leg listed => Leg.name_mem listed)
    (fun leg listed other listed' => Leg.eq_of_path_eq listed listed') legs begin
  have ends := visitAll_eq_load paths some_target state trace run
  have ends' := visitAll_eq_load paths' some_target state trace' run'
  obtain ⟨ok, rfl⟩ := Prod.mk.inj (walked.symm.trans ends)
  obtain ⟨ok', rfl⟩ := Prod.mk.inj (walked'.symm.trans ends')
  obtain ⟨objects, loaded⟩ := View.mk.inj alike
  have once : (calls.map (·.leg.path)).Nodup := (calls_once _ start).1
  have once' : (calls'.map (·.leg.path)).Nodup := (calls_once _ start').1
  have called : ∀ path, path ∈ calls.map (·.leg.path) ↔ path ∈ calls'.map (·.leg.path) := by
    intro path
    have left : path ∈ p.state ↔ path ∈ p'.state := by
      rw [← List.mem_toFinset, loaded, List.mem_toFinset]
    rw [mem_called_iff walked, mem_called_iff walked']
    exact and_congr_left' left
  exact ⟨ok.symm, ok'.symm, objects, walked, walked', loaded_of_visitAll_ok walked,
    loaded_of_visitAll_ok walked', once, once', (List.perm_ext_iff_of_nodup once once').mpr called⟩

end Model

namespace Catalogue

/-- An executor that answers every query with the same rows. -/
def always (rows : List Row) : Executor Unit :=
  .ofExecQuery (fun _ _ => pure ⟨.ok 0, ⟨0⟩, ⟨0⟩⟩) (fun _ _ => pure ⟨.ok rows, ⟨0⟩, ⟨0⟩⟩)

/-- A relation by where its children come from and where they are attached. -/
structure Place where
  toOne : Bool
  link : Nat
  source : Source

namespace Place

def relation {σ : Type} (p : Place) : Relation σ Object :=
  Catalogue.relation p.source.child p.toOne p.link (fetch p.source p.toOne p.link)
    (length_fetch p.source p.toOne p.link)

/-- What the link of an object holds after the children were fetched: the last one with the key of
the object, if there is one, or what was attached before and all with the key. -/
def value (p : Place) (children : List Object) (target : Record) (attached : List Object) :
    List Object :=
  let found := (Attach.group (Object.key p.source.childKey) children).get
    (Object.key p.source.targetKey (.mk target []))
  if p.toOne then (found.getLast?.map fun child => [child]).getD attached
  else attached ++ found

end Place

/-- A few relations by type and name. -/
def places : List ((Nat × String) × Place) :=
  [((video, "User"), ⟨true, 0, ⟨user, "users", "id", 1, 0⟩⟩),
   ((video, "Comments"), ⟨false, 1, ⟨comment, "comments", "video_id", 0, 1⟩⟩),
   ((comment, "Author"), ⟨true, 0, ⟨user, "users", "id", 2, 0⟩⟩)]

def place? (type : Nat) (name : String) : Option Place := places.lookup (type, name)

theorem mem_places {type : Nat} {name : String} {p : Place} (placed : place? type name = some p) :
    ((type, name), p) ∈ places := by
  obtain ⟨before, after, split, -⟩ := List.lookup_eq_some_iff.mp placed
  rw [split]
  exact List.mem_append_right _ List.mem_cons_self

/-- The relations of one type are attached at links of their own. -/
theorem link_ne {type : Nat} {name other : String} {p q : Place}
    (placed : place? type name = some p) (placed' : place? type other = some q)
    (apart : other ≠ name) : p.link ≠ q.link := by
  have all : ∀ a ∈ places, ∀ b ∈ places, a.1.1 = b.1.1 → b.1.2 ≠ a.1.2 → a.2.link ≠ b.2.link := by
    decide
  exact all _ (mem_places placed) _ (mem_places placed') rfl apart

/-- The links of a few relations as fields. -/
def linkFields : Fields Object Record (List Object) where
  core := Object.record
  get type name o := match place? type name with
    | some p => o.children p.link
    | none => []
  set type name cs o := match place? type name with
    | some p => o.withChildren p.link cs
    | none => o
  core_set type name cs o := by
    cases o
    split <;> rfl
  get_set {type name other} apart cs o := by
    cases placed : place? type name with
    | none => rfl
    | some p =>
      cases placed' : place? type other with
      | none => rfl
      | some q => exact Object.children_withChildren_of_ne (link_ne placed placed' apart) cs o
  set_comm {type name other} apart cs ds o := by
    cases placed : place? type name with
    | none => rfl
    | some p =>
      cases placed' : place? type other with
      | none => rfl
      | some q =>
        cases o
        simp only [Object.withChildren]
        exact congrArg _ (List.set_comm _ _ (link_ne placed placed' apart))

/-- The objects of a type that rows are bound to. -/
def bound (rows : List Row) (type : Nat) : List Object :=
  match Record.bindRows schema type rows with
  | .ok records => records.map Object.ofRecord
  | .error _ => []

/-- What a link holds after its relation was loaded by an executor that always gives the same
rows. -/
def linkValue (rows : List Row) (type : Nat) (name : String) (target : Record)
    (attached : List Object) : List Object :=
  match place? type name with
  | some p => p.value (bound rows p.source.child) target attached
  | none => attached

/-- The loader at a place, when the rows can be bound. -/
theorem fetch_always {rows : List Row} {p : Place}
    (binds : (Record.bindRows schema p.source.child rows).isOk = true) (singular : Bool)
    (targets : List Object) (trace : Trace Unit) :
    ((fetch p.source p.toOne p.link (always rows) singular targets).run trace).1 =
      (.ok (), targets.map fun o => o.withChildren p.link
        (p.value (bound rows p.source.child) o.record (o.children p.link))) := by
  obtain ⟨toOne, link, s⟩ := p
  cases records : Record.bindRows schema s.child rows with
  | error e =>
      rw [records] at binds
      cases binds
  | ok children =>
      have answered (q : Query) :
          (q.records (always rows) schema s.child).run trace = (.ok children, trace) := by
        show (Query.asOperation "bind" (Record.bindRows schema s.child rows), trace) = _
        rw [records]
        rfl
      simp only [fetch, StateT.run_bind, answered, bound, records]
      cases toOne with
      | true =>
          refine Prod.ext rfl (List.map_congr_left fun o _ => ?_)
          have key : Object.key s.targetKey (.mk o.record []) = Object.key s.targetKey o := rfl
          simp only [Place.value, key]
          split
          · next found => simp [found]
          · next none => simp [none, Object.withChildren_children]
      | false =>
          refine Prod.ext rfl (List.map_congr_left fun o _ => ?_)
          have key : Object.key s.targetKey (.mk o.record []) = Object.key s.targetKey o := rfl
          simp only [Place.value, key]
          split
          · next none => simp [none, Object.withChildren_children]
          · rfl

theorem ownsField_of_place {rows : List Row} {type : Nat} {name : String} {p : Place}
    (placed : place? type name = some p)
    (binds : (Record.bindRows schema p.source.child rows).isOk = true) :
    (p.relation : Relation Unit Object).OwnsField (always rows) linkFields type name
      (linkValue rows type name) := by
  have get (o : Object) : linkFields.get type name o = o.children p.link := by
    simp only [linkFields, placed]
  have set (cs : List Object) (o : Object) :
      linkFields.set type name cs o = o.withChildren p.link cs := by
    simp only [linkFields, placed]
  constructor
  · intro singular targets trace
    refine (fetch_always binds singular targets trace).trans ?_
    refine Prod.ext rfl (List.map_congr_left fun o _ => ?_)
    rw [Fields.edit, get, set, linkValue, placed]
    rfl
  · exact ⟨id, fun o => (get o).symm⟩
  · exact ⟨fun cs _ => cs, fun _ => (set _ _).symm⟩

theorem relation?_eq_place {σ : Type} {type : Nat} {name : String}
    (mentioned : name ∈ ["User", "Comments", "Author"]) :
    (model : Model σ Object).relation? type name = (place? type name).map Place.relation := by
  simp only [List.mem_cons, List.not_mem_nil, or_false] at mentioned
  by_cases top : type = video
  · subst top
    rcases mentioned with rfl | rfl | rfl <;> rfl
  by_cases below : type = comment
  · subst below
    rcases mentioned with rfl | rfl | rfl <;> rfl
  · -- other types have no relation of these names
    have unplaced : place? type name = none := by
      refine List.lookup_eq_none_iff.mpr fun entry listed => ?_
      simp only [places, List.mem_cons, List.not_mem_nil, or_false] at listed
      rcases listed with rfl | rfl | rfl
      · simp [top]
      · simp [top]
      · simp [below]
    rw [unplaced]
    unfold Model.relation? model registry
    simp only [top, below, if_false]
    split_ifs
    · rcases mentioned with rfl | rfl | rfl <;> rfl
    · rcases mentioned with rfl | rfl | rfl <;> rfl
    · rfl
    · rfl

/-- Two rows with a number. -/
def numberedRows : List Row := [⟨["id"], [.int 0]⟩, ⟨["id"], [.int 0]⟩]

theorem places_bind :
    ∀ a ∈ places, (Record.bindRows schema a.2.source.child numberedRows).isOk = true := by
  decide +kernel

theorem ownFields_of_subset {names : List String} (few : names ⊆ ["User", "Comments", "Author"]) :
    (model : Model Unit Object).OwnFields names (always numberedRows) linkFields
      (linkValue numberedRows) := by
  intro type name r mentioned related
  rw [relation?_eq_place (few mentioned)] at related
  obtain ⟨p, placed, rfl⟩ := Option.map_eq_some_iff.mp related
  have binds : (Record.bindRows schema p.source.child numberedRows).isOk = true :=
    places_bind ((type, name), p) (mem_places placed)
  exact ownsField_of_place placed binds

/-- A path and a sibling. -/
def shortPaths : List String := ["Comments.Author", "User"]

/-- The same in another order, one of them twice, and the path above the other. -/
def longPaths : List String := ["User", "Comments", "Comments.Author", "User"]

def numberedRun (paths : List String) : LoadProgress Object × Trace Unit :=
  (model.load (always numberedRows) video true paths [Object.ofRecord (Record.blank schema video)]
    []).run ⟨(), []⟩

/-- A video gets its comments, their authors and its user in both orders. -/
theorem numberedRuns_agree :
    (∀ path, path ∈ Model.prefixes shortPaths ↔ path ∈ Model.prefixes longPaths) ∧
      (numberedRun shortPaths).1.outcome = .ok () ∧ (numberedRun longPaths).1.outcome = .ok () ∧
      (numberedRun shortPaths).1.targets = (numberedRun longPaths).1.targets ∧
      (numberedRun shortPaths).1.state = ["Comments", "Comments.Author", "User"] ∧
      (numberedRun longPaths).1.state = ["User", "Comments", "Comments.Author"] := by
  have registered : ∀ leg ∈ Leg.ofPaths shortPaths,
      (model : Model Unit Object).Related video leg := by
    have all : (Leg.ofPaths shortPaths).all (fun leg =>
        (((model : Model Unit Object).focus? video leg.way).bind fun f =>
          (model : Model Unit Object).relation? f.type leg.name).isSome) = true := by
      decide +kernel
    intro leg listed
    obtain ⟨r, found⟩ := Option.isSome_iff_exists.mp (List.all_eq_true.mp all leg listed)
    obtain ⟨f, leads, related⟩ := Option.bind_eq_some_iff.mp found
    exact ⟨f, r, leads, related⟩
  have same : ∀ path, path ∈ Model.prefixes shortPaths ↔ path ∈ Model.prefixes longPaths := by
    have short : Model.prefixes shortPaths = ["Comments", "Comments.Author", "User"] := by
      decide +kernel
    have long : Model.prefixes longPaths =
        ["User", "Comments", "Comments", "Comments.Author", "User"] := by
      decide +kernel
    intro path
    rw [short, long]
    simp only [List.mem_cons, List.not_mem_nil]
    tauto
  obtain ⟨ok, ok', agree, -⟩ := Model.load_paths_as_set model (always numberedRows) linkFields
    (linkValue numberedRows) video true (ownFields_of_subset (by decide +kernel)) registered same
    (List.cons_ne_nil _ _) [] ⟨(), []⟩ ⟨(), []⟩ (Prod.eta (numberedRun shortPaths)).symm
    (Prod.eta (numberedRun longPaths)).symm
  exact ⟨same, ok, ok', agree, by decide +kernel, by decide +kernel⟩

end Catalogue

end QueryBind
