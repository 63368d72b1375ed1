/-
# QueryBind.Proofs.Record.Sharing — requests for mappings, interleaved

A `Request` for a compiled mapping takes up to three steps: it looks its key up, compiles the
mapping on a miss, and offers what it compiled. Only the first and the last touch the cache, each in
one piece, so any number of requests may take their steps in any order: a `Service` is a cache
with the requests on it, and a schedule says whose step is next. `step_justified` says all that a
step does to the cache and the request that takes it; `Service.valid_run` and
`Service.request_run` follow it through a schedule. The main statement,
`interleaved_requests_agree`, is that no schedule shows in an answer.
-/
import Mathlib.Data.List.Nodup
import QueryBind.Proofs.Record.Instance
import QueryBind.Record.MappingCache

namespace QueryBind

set_option autoImplicit false

namespace MappingCache

/-! ## Sound caches -/

/-- A record type and a column list. -/
abbrev Key := Nat × List String

/-- Every entry is the mapping of its key, no key has two, and the serial of an entry is the number
of entries that were there before it. -/
structure Sound (s : Schema) (cache : MappingCache) : Prop where
  mapped : ∀ key entry, (key, entry) ∈ cache.entries → s.mapping key.1 key.2 = .ok entry.paths
  distinct : (cache.entries.map (·.1)).Nodup
  serials : cache.entries.map (·.2.serial) = (List.range cache.entries.length).reverse

/-- The cache has grown: its entries are still there, and newer ones before them. -/
def Grows (before after : MappingCache) : Prop := before.entries <:+ after.entries

theorem Grows.trans {a b c : MappingCache} (first : a.Grows b) (second : b.Grows c) : a.Grows c :=
  List.IsSuffix.trans first second

variable {s : Schema} {cache after : MappingCache} {key : Key} {entry : Entry}

theorem sound_empty : Sound s empty := ⟨fun _ _ => nofun, .nil, rfl⟩

theorem mem_of_lookup (found : cache.lookup key.1 key.2 = some entry) :
    (key, entry) ∈ cache.entries := by
  obtain ⟨newer, older, split, -⟩ := List.lookup_eq_some_iff.mp found
  exact split ▸ List.mem_append_right _ List.mem_cons_self

theorem not_mem_of_lookup (missing : cache.lookup key.1 key.2 = none) :
    key ∉ cache.entries.map (·.1) := by
  intro member
  obtain ⟨⟨key', entry⟩, kept, rfl⟩ := List.mem_map.mp member
  simpa using List.lookup_eq_none_iff.mp missing _ kept

namespace Sound

variable (sound : Sound s cache)

include sound

theorem lookup_of_mem (member : (key, entry) ∈ cache.entries) :
    cache.lookup key.1 key.2 = some entry := by
  obtain ⟨newer, older, split⟩ := List.append_of_mem member
  refine List.lookup_eq_some_iff.mpr ⟨newer, older, split, fun other before => ?_⟩
  have distinct := sound.distinct
  rw [split, List.map_append, List.map_cons, List.nodup_append] at distinct
  simpa using (distinct.2.2 _ (List.mem_map_of_mem before) _ List.mem_cons_self).symm

theorem lookup_mapped (found : cache.lookup key.1 key.2 = some entry) :
    s.mapping key.1 key.2 = .ok entry.paths :=
  sound.mapped key entry (mem_of_lookup found)

/-- Entries of different keys have different serials. -/
theorem key_of_serial {key' : Key} {entry' : Entry}
    (found : cache.lookup key.1 key.2 = some entry)
    (found' : cache.lookup key'.1 key'.2 = some entry') (same : entry.serial = entry'.serial) :
    key = key' := by
  have nodup : (cache.entries.map (·.2.serial)).Nodup := by
    rw [sound.serials, List.nodup_reverse]
    exact List.nodup_range
  have member := mem_of_lookup found
  have member' := mem_of_lookup found'
  exact congrArg Prod.fst (List.inj_on_of_nodup_map nodup member member' same)

/-- What is kept after an offer of a key's mapping: the entry that was there, or a new one. -/
theorem offer {paths : List FieldPath} (compiled : s.mapping key.1 key.2 = .ok paths) :
    Sound s (cache.offer key.1 key.2 paths).2 ∧ cache.Grows (cache.offer key.1 key.2 paths).2 ∧
      (cache.offer key.1 key.2 paths).2.lookup key.1 key.2 =
        some (cache.offer key.1 key.2 paths).1 := by
  unfold MappingCache.offer
  cases found : cache.lookup key.1 key.2 with
  | some entry => exact ⟨sound, List.suffix_refl _, found⟩
  | none =>
      refine ⟨⟨?_, ?_, ?_⟩, List.suffix_cons _ _, by simp [lookup]⟩
      · rintro key' entry' member
        rcases List.mem_cons.mp member with new | old
        · obtain ⟨rfl, rfl⟩ := Prod.mk.inj new
          exact compiled
        · exact sound.mapped key' entry' old
      · exact List.nodup_cons.mpr ⟨not_mem_of_lookup found, sound.distinct⟩
      · simp only [List.map_cons, List.length_cons, List.range_succ, List.reverse_append,
          List.reverse_singleton, sound.serials]
        rfl

end Sound

theorem Grows.lookup (grows : cache.Grows after) (sound : Sound s after)
    (found : cache.lookup key.1 key.2 = some entry) : after.lookup key.1 key.2 = some entry :=
  sound.lookup_of_mem (grows.subset (mem_of_lookup found))

/-! ## Requests -/

/-- How far a request has come. -/
inductive Phase where
  | asked
  /-- There was no entry for its key. -/
  | missed
  | compiled (paths : List FieldPath)
  | answered (outcome : Except BindingError Entry)

/-- The number of steps that a request in this phase has behind it, or could have. -/
def Phase.rank : Phase → Nat
  | .asked => 0
  | .missed => 1
  | .compiled _ => 2
  | .answered _ => 3

/-- The outcome of a request that is answered. -/
def Phase.outcome? : Phase → Option (Except BindingError Entry)
  | .answered outcome => some outcome
  | _ => none

structure Request where
  key : Key
  phase : Phase

namespace Request

/-- The next step of a request: the request and the cache after it. -/
def step (s : Schema) (r : Request) (cache : MappingCache) : Request × MappingCache :=
  match r.phase with
  | .asked =>
      match cache.lookup r.key.1 r.key.2 with
      | some entry => (⟨r.key, .answered (.ok entry)⟩, cache)
      | none => (⟨r.key, .missed⟩, cache)
  | .missed =>
      match s.mapping r.key.1 r.key.2 with
      | .ok paths => (⟨r.key, .compiled paths⟩, cache)
      | .error e => (⟨r.key, .answered (.error e)⟩, cache)
  | .compiled paths =>
      let (entry, cache) := cache.offer r.key.1 r.key.2 paths
      (⟨r.key, .answered (.ok entry)⟩, cache)
  | .answered _ => (r, cache)

/-- What a request has found out is right: paths and failures are those of its key's mapping, and an
entry is the one that is kept for its key. -/
def Justified (s : Schema) (cache : MappingCache) (r : Request) : Prop :=
  match r.phase with
  | .asked | .missed => True
  | .compiled paths => s.mapping r.key.1 r.key.2 = .ok paths
  | .answered (.ok entry) => cache.lookup r.key.1 r.key.2 = some entry
  | .answered (.error e) => s.mapping r.key.1 r.key.2 = .error e

variable {r : Request}

theorem Justified.grows (justified : r.Justified s cache) (sound : Sound s after)
    (grows : cache.Grows after) : r.Justified s after := by
  obtain ⟨key, phase⟩ := r
  cases phase with
  | asked | missed => trivial
  | compiled paths => exact justified
  | answered outcome =>
      cases outcome with
      | error e => exact justified
      | ok entry => exact grows.lookup sound justified

/-- A step of a justified request keeps the cache sound and all its entries, brings the request on,
and changes nothing when the key has no mapping. -/
theorem step_justified (sound : Sound s cache) (justified : r.Justified s cache) :
    (Sound s (r.step s cache).2 ∧ cache.Grows (r.step s cache).2) ∧
      (r.step s cache).1.Justified s (r.step s cache).2 ∧
      ((r.step s cache).1.key = r.key ∧
        min 3 (r.phase.rank + 1) ≤ (r.step s cache).1.phase.rank) ∧
      ∀ e, s.mapping r.key.1 r.key.2 = .error e → (r.step s cache).2 = cache := by
  obtain ⟨key, phase⟩ := r
  have still : cache.Grows cache := List.suffix_refl _
  cases phase with
  | asked =>
      simp only [step]
      cases found : cache.lookup key.1 key.2 with
      | some entry => exact ⟨⟨sound, still⟩, found, ⟨rfl, by simp [Phase.rank]⟩, fun _ _ => rfl⟩
      | none => exact ⟨⟨sound, still⟩, trivial, ⟨rfl, by simp [Phase.rank]⟩, fun _ _ => rfl⟩
  | missed =>
      simp only [step]
      cases compiled : s.mapping key.1 key.2 with
      | ok paths => exact ⟨⟨sound, still⟩, compiled, ⟨rfl, by simp [Phase.rank]⟩, fun _ _ => rfl⟩
      | error e => exact ⟨⟨sound, still⟩, compiled, ⟨rfl, by simp [Phase.rank]⟩, fun _ _ => rfl⟩
  | compiled paths =>
      have compiled : s.mapping key.1 key.2 = .ok paths := justified
      obtain ⟨soundAfter, grows, kept⟩ := sound.offer compiled
      refine ⟨⟨soundAfter, grows⟩, kept, ⟨rfl, by simp [step, Phase.rank]⟩, fun e failed => ?_⟩
      rw [compiled] at failed
      cases failed
  | answered outcome =>
      exact ⟨⟨sound, still⟩, justified, ⟨rfl, by simp [step, Phase.rank]⟩, fun _ _ => rfl⟩

end Request

/-! ## Schedules -/

/-- A cache with the requests on it. -/
structure Service where
  cache : MappingCache
  requests : List Request

namespace Service

/-- Requests for some keys, none of which has taken a step. -/
def opened (cache : MappingCache) (keys : List Key) : Service :=
  ⟨cache, keys.map fun key => ⟨key, .asked⟩⟩

/-- The service after a step of one request. -/
def step (s : Schema) (v : Service) (i : Nat) : Service :=
  match v.requests[i]? with
  | some r => ⟨(r.step s v.cache).2, v.requests.set i (r.step s v.cache).1⟩
  | none => v

/-- The service after a schedule, which names the request that takes the next step. -/
def run (s : Schema) (v : Service) (schedule : List Nat) : Service := schedule.foldl (step s) v

/-- What a request was answered, if it was. -/
def answer? (v : Service) (i : Nat) : Option (Except BindingError Entry) :=
  v.requests[i]?.bind (·.phase.outcome?)

/-- The cache is sound and every request is justified. -/
structure Valid (s : Schema) (v : Service) : Prop where
  sound : Sound s v.cache
  justified : ∀ (i : Nat) (r : Request), v.requests[i]? = some r → r.Justified s v.cache

theorem valid_opened (sound : Sound s cache) (keys : List Key) : (opened cache keys).Valid s := by
  refine ⟨sound, fun i r found => ?_⟩
  simp only [opened, List.getElem?_map, Option.map_eq_some_iff] at found
  obtain ⟨key, -, rfl⟩ := found
  trivial

variable {v : Service}

theorem valid_step (valid : v.Valid s) (i : Nat) :
    (v.step s i).Valid s ∧ v.cache.Grows (v.step s i).cache := by
  unfold step
  cases found : v.requests[i]? with
  | none => exact ⟨valid, List.suffix_refl _⟩
  | some r =>
      obtain ⟨⟨soundAfter, grows⟩, own, -, -⟩ :=
        Request.step_justified valid.sound (valid.justified i r found)
      refine ⟨⟨soundAfter, fun j r' found' => ?_⟩, grows⟩
      rw [List.getElem?_set] at found'
      by_cases here : i = j
      · -- the request that took the step
        have inside : j < v.requests.length := here ▸ (List.getElem?_eq_some_iff.mp found).1
        simp only [here, inside, if_true, Option.some.injEq] at found'
        exact found' ▸ own
      · rw [if_neg here] at found'
        exact (valid.justified j r' found').grows soundAfter grows

theorem valid_run (valid : v.Valid s) (schedule : List Nat) :
    (v.run s schedule).Valid s ∧ v.cache.Grows (v.run s schedule).cache := by
  induction schedule generalizing v with
  | nil => exact ⟨valid, List.suffix_refl _⟩
  | cons i rest ih =>
      obtain ⟨valid', grows⟩ := valid_step valid i
      obtain ⟨valid'', grows'⟩ := ih valid'
      exact ⟨valid'', grows.trans grows'⟩

/-- A request keeps its key, and comes on with each of its own steps. -/
theorem request_run (valid : v.Valid s) (schedule : List Nat) {i : Nat} {r : Request}
    (found : v.requests[i]? = some r) :
    ∃ r', (v.run s schedule).requests[i]? = some r' ∧ r'.key = r.key ∧
      min 3 (r.phase.rank + schedule.count i) ≤ r'.phase.rank := by
  induction schedule generalizing v r with
  | nil => exact ⟨r, found, rfl, by simp⟩
  | cons j rest ih =>
      by_cases here : j = i
      · subst here
        obtain ⟨-, -, ⟨sameKey, further⟩, -⟩ :=
          Request.step_justified valid.sound (valid.justified j r found)
        have found' : (v.step s j).requests[j]? = some (r.step s v.cache).1 := by
          unfold step
          rw [found]
          exact List.getElem?_set_self (List.getElem?_eq_some_iff.mp found).1
        obtain ⟨r', last, key, rank⟩ := ih (valid_step valid j).1 found'
        refine ⟨r', last, key.trans sameKey, ?_⟩
        rw [List.count_cons_self]
        omega
      · have found' : (v.step s j).requests[i]? = some r := by
          unfold step
          split
          · rw [List.getElem?_set_ne here, found]
          · exact found
        obtain ⟨r', last, key, rank⟩ := ih (valid_step valid j).1 found'
        exact ⟨r', last, key, by rwa [List.count_cons_of_ne here]⟩

theorem answer?_eq_some {i : Nat} {outcome : Except BindingError Entry} :
    v.answer? i = some outcome ↔
      ∃ r, v.requests[i]? = some r ∧ r.phase = .answered outcome := by
  simp only [answer?, Option.bind_eq_some_iff]
  refine exists_congr fun r => and_congr_right fun _ => ?_
  cases r.phase <;> simp [Phase.outcome?]

end Service

/-- Requests lead to the cache from an empty one. -/
def Reachable (s : Schema) (cache : MappingCache) : Prop :=
  ∃ keys schedule, ((Service.opened empty keys).run s schedule).cache = cache

theorem Reachable.sound (reachable : Reachable s cache) : Sound s cache := by
  obtain ⟨keys, schedule, rfl⟩ := reachable
  exact (Service.valid_run (Service.valid_opened sound_empty keys) schedule).1.sound

/-- One request that is not interrupted is `compile`. -/
theorem run_alone (s : Schema) (cache : MappingCache) (key : Key) :
    ((Service.opened cache [key]).run s [0, 0, 0]).answer? 0 =
        some (cache.compile s key.1 key.2).1 ∧
      ((Service.opened cache [key]).run s [0, 0, 0]).cache = (cache.compile s key.1 key.2).2 := by
  unfold compile
  cases found : cache.lookup key.1 key.2 with
  | some entry => simp [Service.run, Service.step, Service.opened, Service.answer?, Request.step,
      found, Phase.outcome?]
  | none =>
      cases compiled : s.mapping key.1 key.2 with
      | error e => simp [Service.run, Service.step, Service.opened, Service.answer?, Request.step,
          found, compiled, Phase.outcome?]
      | ok paths => simp [Service.run, Service.step, Service.opened, Service.answer?, Request.step,
          found, compiled, Phase.outcome?]

/-- **The order in which requests take their steps does not show.** From any cache that requests
lead to, for any requests and any schedule:

* a request that has taken three steps is answered, and every answer is that of the mapping of the
  request's own key, with the same paths;
* what is kept for a key is its mapping, and is kept for good;
* two requests that are answered an entry are answered the same one if and only if they have the same
  key, whether they found it or missed it together;
* a step of a request whose key has no mapping leaves the cache as it is;
* a request that is not interrupted is `compile`. -/
theorem interleaved_requests_agree (s : Schema) {cache : MappingCache}
    (reachable : Reachable s cache) (keys : List Key) (schedule : List Nat) :
    let after := fun steps => (Service.opened cache keys).run s steps
    (∀ (i : Nat) (key : Key), keys[i]? = some key →
      (3 ≤ schedule.count i → ∃ outcome, (after schedule).answer? i = some outcome) ∧
        ∀ outcome, (after schedule).answer? i = some outcome →
          outcome.map (·.paths) = s.mapping key.1 key.2) ∧
      (∀ earlier later, schedule = earlier ++ later → ∀ (key : Key) (entry : Entry),
        (after earlier).cache.lookup key.1 key.2 = some entry →
          s.mapping key.1 key.2 = .ok entry.paths ∧
            (after schedule).cache.lookup key.1 key.2 = some entry) ∧
      (∀ (i j : Nat) (key key' : Key) (entry entry' : Entry),
        keys[i]? = some key → keys[j]? = some key' →
        (after schedule).answer? i = some (.ok entry) →
        (after schedule).answer? j = some (.ok entry') →
          (entry.serial = entry'.serial ↔ key = key') ∧ (key = key' → entry = entry')) ∧
      (∀ (earlier later : List Nat) (i : Nat) (key : Key) (e : BindingError),
        schedule = earlier ++ i :: later → keys[i]? = some key →
        s.mapping key.1 key.2 = .error e →
          (after (earlier ++ [i])).cache = (after earlier).cache) ∧
      ∀ key, ((Service.opened cache [key]).run s [0, 0, 0]).answer? 0 =
          some (cache.compile s key.1 key.2).1 ∧
        ((Service.opened cache [key]).run s [0, 0, 0]).cache =
          (cache.compile s key.1 key.2).2 := by
  intro after
  have start := Service.valid_opened reachable.sound keys
  have valid steps : (after steps).Valid s := (Service.valid_run start steps).1
  -- the request at a place, after a schedule
  have request steps {i : Nat} {key : Key} (asked : keys[i]? = some key) :
      ∃ r, (after steps).requests[i]? = some r ∧ r.key = key ∧
        min 3 (steps.count i) ≤ r.phase.rank := by
    have found : (Service.opened cache keys).requests[i]? = some ⟨key, .asked⟩ := by
      simp [Service.opened, asked]
    obtain ⟨r, last, sameKey, rank⟩ := Service.request_run start steps found
    exact ⟨r, last, sameKey, by simpa [Phase.rank] using rank⟩
  have justified {i : Nat} {key : Key} {outcome : Except BindingError Entry}
      (asked : keys[i]? = some key) (answered : (after schedule).answer? i = some outcome) :
      (Request.mk key (.answered outcome)).Justified s (after schedule).cache := by
    obtain ⟨r, last, rfl, -⟩ := request schedule asked
    obtain ⟨r', found, phase⟩ := Service.answer?_eq_some.mp answered
    obtain rfl : r = r' := Option.some.inj (last.symm.trans found)
    rw [← phase]
    exact (valid schedule).justified i r last
  refine ⟨fun i key asked => ⟨fun enough => ?_, fun outcome answered => ?_⟩,
    fun earlier later split key entry kept => ?_,
    fun i j key key' entry entry' asked asked' answered answered' => ?_,
    fun earlier later i key e split asked failed => ?_, run_alone s cache⟩
  · obtain ⟨r, last, -, rank⟩ := request schedule asked
    cases phase : r.phase with
    | answered outcome => exact ⟨outcome, Service.answer?_eq_some.mpr ⟨r, last, phase⟩⟩
    | asked | missed | compiled paths =>
        rw [phase] at rank
        simp only [Phase.rank] at rank
        omega
  · cases outcome with
    | ok entry => exact ((valid schedule).sound.lookup_mapped (justified asked answered)).symm
    | error e => exact (justified asked answered : s.mapping _ _ = _).symm
  · have grows : (after earlier).cache.Grows (after schedule).cache := by
      have whole : after schedule = (after earlier).run s later := by
        rw [split]
        exact List.foldl_append
      rw [whole]
      exact (Service.valid_run (valid earlier) later).2
    exact ⟨(valid earlier).sound.lookup_mapped kept, grows.lookup (valid schedule).sound kept⟩
  · have kept := justified asked answered
    have kept' := justified asked' answered'
    have same : key = key' → entry = entry' := by
      rintro rfl
      exact Option.some.inj (kept.symm.trans kept')
    exact ⟨⟨(valid schedule).sound.key_of_serial kept kept', fun equal => congrArg _ (same equal)⟩,
      same⟩
  · obtain ⟨r, last, rfl, -⟩ := request earlier asked
    have next : after (earlier ++ [i]) = (after earlier).step s i := List.foldl_append
    rw [next, Service.step, last]
    exact (Request.step_justified (valid earlier).sound
      ((valid earlier).justified i r last)).2.2.2 e failed

/-- Two requests for one mapping, one for the same columns of another type, and one for a type that
has no field for them. -/
def raced : List Key := [(0, ["id"]), (0, ["id"]), (2, ["id"]), (1, ["id"])]

/-- The first two requests both miss and both compile, and the second one is the first to offer. -/
def race : List Nat := [0, 1, 0, 1, 3, 1, 0, 2, 2, 3, 2, 3]

theorem raced_answers :
    let after := (Service.opened empty raced).run .staff race
    Reachable .staff empty ∧
      (∃ entry other, after.answer? 0 = some (.ok entry) ∧ after.answer? 1 = some (.ok entry) ∧
        after.answer? 2 = some (.ok other) ∧ entry.serial ≠ other.serial) ∧
      ∃ outcome, after.answer? 3 = some outcome ∧
        outcome.map (·.paths) = .error (.unknownColumn "id" "Badge") := by
  intro after
  have reachable : Reachable .staff empty := ⟨[], [], rfl⟩
  obtain ⟨each, -, shared, -⟩ := interleaved_requests_agree .staff reachable raced race
  have entry {i : Nat} {key : Key} (asked : raced[i]? = some key) (enough : 3 ≤ race.count i)
      (compiles : (Schema.staff.mapping key.1 key.2).isOk = true) :
      ∃ entry, after.answer? i = some (.ok entry) := by
    obtain ⟨outcome, answered⟩ := (each i key asked).1 enough
    have same := (each i key asked).2 outcome answered
    cases outcome with
    | ok entry => exact ⟨entry, answered⟩
    | error e =>
        rw [← same] at compiles
        cases compiles
  obtain ⟨first, answered⟩ := entry (i := 0) rfl (by decide) (by decide +kernel)
  obtain ⟨second, answered'⟩ := entry (i := 1) rfl (by decide) (by decide +kernel)
  obtain ⟨other, answered''⟩ := entry (i := 2) rfl (by decide) (by decide +kernel)
  obtain ⟨outcome, refused⟩ := (each 3 _ rfl).1 (by decide)
  obtain rfl := (shared 0 1 _ _ _ _ rfl rfl answered answered').2 rfl
  refine ⟨reachable, ⟨first, other, answered, answered', answered'', fun same => ?_⟩, outcome,
    refused, ((each 3 _ rfl).2 outcome refused).trans (by decide +kernel)⟩
  exact absurd ((shared 0 2 _ _ _ _ rfl rfl answered answered'').1.mp same) (by decide)

end MappingCache

end QueryBind
