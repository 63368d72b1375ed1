/-
# QueryBind.Proofs.Relation.Attaching — no child is lost and none is invented

The children of a batch are first put into groups by their key, and each target then takes the group
of its own key. A group holds the children of its key in the order they came (`Groups.get_group`),
whatever the groups before and behind it are, so that what a target is given depends on nothing but
its key and the list of children.

Where the children go is one field of a target, a `Slot`. `children_attached_by_key` says what the
field holds afterwards, that the rest of the target is as before, and that the keys to fetch by are
enough: a list that was cut down to the children of these keys is attached like the whole list.
-/
import Mathlib.Data.List.Forall2
import Mathlib.Data.List.Induction
import QueryBind.Relation.Attach

namespace QueryBind.Attach

set_option autoImplicit false

variable {τ χ κ : Type} [DecidableEq κ]

/-! ## Groups -/

namespace Groups

theorem get_nil (k : κ) : get ([] : Groups κ χ) k = [] := rfl

theorem get_cons (first k : κ) (children : List χ) (rest : Groups κ χ) :
    get ((first, children) :: rest) k = if k = first then children else rest.get k := by
  simp only [get, List.lookup_cons]
  by_cases here : k = first
  · simp [here]
  · rw [beq_eq_false_iff_ne.mpr here, if_neg here]

theorem get_add (k k' : κ) (child : χ) (groups : Groups κ χ) :
    (add k child groups).get k' = if k' = k then groups.get k' ++ [child] else groups.get k' := by
  induction groups with
  | nil => simp only [add, get_cons, get_nil, List.nil_append]
  | cons entry rest ih =>
      obtain ⟨first, children⟩ := entry
      simp only [add]
      split
      · next here =>
          subst here
          simp only [get_cons]
          split <;> rfl
      · next elsewhere =>
          simp only [get_cons, ih]
          by_cases found : k' = first
          · have other : k' ≠ k := fun same => elsewhere (same.symm.trans found)
            rw [if_pos found, if_pos found, if_neg other]
          · rw [if_neg found, if_neg found]

/-- The group of a key is what the list has of that key, in the order of the list. -/
theorem get_group (key : χ → κ) (children : List χ) (k : κ) :
    (group key children).get k = children.filter fun child => key child = k := by
  induction children using List.reverseRecOn with
  | nil => rfl
  | append_singleton children child ih =>
      rw [group, List.foldl_concat, ← group, get_add, ih, List.filter_append]
      by_cases same : k = key child
      · simp [same]
      · simp [same, Ne.symm same]

end Groups

/-! ## Keys -/

theorem distinctKeys_concat (key : τ → κ) (targets : List τ) (t : τ) :
    distinctKeys key (targets ++ [t]) =
      if key t ∈ distinctKeys key targets then distinctKeys key targets
      else distinctKeys key targets ++ [key t] := by
  rw [distinctKeys, List.foldl_concat, ← distinctKeys]

theorem mem_distinctKeys {key : τ → κ} {targets : List τ} {k : κ} :
    k ∈ distinctKeys key targets ↔ k ∈ targets.map key := by
  induction targets using List.reverseRecOn with
  | nil => simp [distinctKeys]
  | append_singleton targets t ih =>
      rw [distinctKeys_concat, List.map_append, List.mem_append, ← ih, List.map_singleton,
        List.mem_singleton]
      split
      · next seen => exact ⟨.inl, fun found => found.elim id fun same => same ▸ seen⟩
      · rw [List.mem_append, List.mem_singleton]

/-- Each key is listed once, behind those that occur earlier among the targets. -/
theorem distinctKeys_increasing (key : τ → κ) (targets : List τ) :
    (distinctKeys key targets).Pairwise fun a b =>
      (targets.map key).idxOf a < (targets.map key).idxOf b := by
  induction targets using List.reverseRecOn with
  | nil => exact .nil
  | append_singleton targets t ih =>
      have place {k : κ} (listed : k ∈ distinctKeys key targets) :
          ((targets ++ [t]).map key).idxOf k = (targets.map key).idxOf k := by
        rw [List.map_append, List.idxOf_append_of_mem (mem_distinctKeys.mp listed)]
      have before := ih.imp_of_mem fun listed listed' earlier =>
        (place listed).symm ▸ (place listed').symm ▸ earlier
      rw [distinctKeys_concat]
      split
      · exact before
      · next unseen =>
          have absent : key t ∉ targets.map key :=
            fun inside => unseen (mem_distinctKeys.mpr inside)
          refine List.pairwise_append.mpr ⟨before, List.pairwise_singleton _ _, ?_⟩
          intro a listed b last
          obtain rfl := List.mem_singleton.mp last
          rw [place listed, List.map_append, List.idxOf_append_of_notMem absent]
          have inside := List.idxOf_lt_length_of_mem (mem_distinctKeys.mp listed)
          omega

/-! ## Slots -/

/-- One field of an object: its content can be replaced, and nothing else. -/
structure Slot (τ φ : Type) where
  get : τ → φ
  set : φ → τ → τ
  get_set : ∀ v t, get (set v t) = v
  set_get : ∀ t, set (get t) t = t
  set_set : ∀ v w t, set v (set w t) = set v t

namespace Slot

/-- The target with children put behind those that the slot holds. -/
def extend (slot : Slot τ (List χ)) (found : List χ) (t : τ) : τ :=
  slot.set (slot.get t ++ found) t

/-- The target with a child in the slot. -/
def put (slot : Slot τ (Option χ)) (child : χ) (t : τ) : τ := slot.set (some child) t

/-- What stands beside a key. -/
def second {φ : Type} : Slot (κ × φ) φ where
  get := Prod.snd
  set v t := (t.1, v)
  get_set _ _ := rfl
  set_get _ := rfl
  set_set _ _ _ := rfl

/-- The two objects differ in the slot only: with the content of the one, the other is the same. -/
def Beside {φ : Type} (slot : Slot τ φ) (t t' : τ) : Prop := slot.set (slot.get t) t' = t

theorem beside_set {φ : Type} (slot : Slot τ φ) (v : φ) (t : τ) : slot.Beside t (slot.set v t) := by
  rw [Beside, slot.set_set, slot.set_get]

end Slot

/-! ## Attaching -/

theorem attachMany_eq_map (targetKey : τ → κ) (childKey : χ → κ) {extend : List χ → τ → τ}
    (keeps : ∀ t, extend [] t = t) (children : List χ) (targets : List τ) :
    attachMany targetKey childKey extend children targets =
      targets.map fun t => extend (children.filter fun c => childKey c = targetKey t) t := by
  refine List.map_congr_left fun t _ => ?_
  rw [Groups.get_group]
  split
  · next none => rw [none, keeps]
  · rfl

theorem attachOne_eq_map (targetKey : τ → κ) (childKey : χ → κ) (put : χ → τ → τ)
    (children : List χ) (targets : List τ) :
    attachOne targetKey childKey put children targets =
      targets.map fun t =>
        match (children.filter fun c => childKey c = targetKey t).getLast? with
        | some child => put child t
        | none => t := by
  refine List.map_congr_left fun t _ => ?_
  let give (own : List χ) : τ :=
    match own.getLast? with
    | some child => put child t
    | none => t
  exact congrArg give (Groups.get_group childKey children (targetKey t))

/-- Children that have no target's key are not attached, so they need not be in the list. -/
theorem filter_fetched (targetKey : τ → κ) (childKey : χ → κ) (children : List χ)
    {targets : List τ} {t : τ} (member : t ∈ targets) :
    ((children.filter fun c => childKey c ∈ distinctKeys targetKey targets).filter
      fun c => childKey c = targetKey t) = children.filter fun c => childKey c = targetKey t := by
  rw [List.filter_filter]
  refine List.filter_congr fun c _ => ?_
  have fetched : targetKey t ∈ distinctKeys targetKey targets :=
    mem_distinctKeys.mpr (List.mem_map_of_mem member)
  by_cases same : childKey c = targetKey t
  · simp [same, fetched]
  · simp [same]

/-- What a target becomes that is given all its children. -/
structure GivenAll (targetKey : τ → κ) (childKey : χ → κ) (children : List χ)
    (slot : Slot τ (List χ)) (t t' : τ) : Prop where
  held : slot.get t' = slot.get t ++ children.filter fun c => childKey c = targetKey t
  beside : slot.Beside t t'

/-- What a target becomes that is given the last of its children. -/
structure GivenLast (targetKey : τ → κ) (childKey : χ → κ) (children : List χ)
    (slot : Slot τ (Option χ)) (t t' : τ) : Prop where
  last : ∀ before child after, children = before ++ child :: after →
    childKey child = targetKey t → (∀ c ∈ after, childKey c ≠ targetKey t) →
      slot.get t' = some child
  none : (∀ c ∈ children, childKey c ≠ targetKey t) → t' = t
  beside : slot.Beside t t'

theorem givenAll (targetKey : τ → κ) (childKey : χ → κ) (children : List χ)
    (slot : Slot τ (List χ)) (targets : List τ) :
    List.Forall₂ (GivenAll targetKey childKey children slot) targets
      (attachMany targetKey childKey slot.extend children targets) := by
  have keeps (t : τ) : slot.extend [] t = t := by
    rw [Slot.extend, List.append_nil, slot.set_get]
  rw [attachMany_eq_map targetKey childKey keeps, List.forall₂_map_right_iff, List.forall₂_same]
  exact fun t _ => ⟨slot.get_set _ t, slot.beside_set _ t⟩

theorem givenLast (targetKey : τ → κ) (childKey : χ → κ) (children : List χ)
    (slot : Slot τ (Option χ)) (targets : List τ) :
    List.Forall₂ (GivenLast targetKey childKey children slot) targets
      (attachOne targetKey childKey slot.put children targets) := by
  rw [attachOne_eq_map, List.forall₂_map_right_iff, List.forall₂_same]
  intro t _
  constructor
  · rintro before child after rfl same others
    have nothing : (after.filter fun c => childKey c = targetKey t) = [] := by
      simpa [List.filter_eq_nil_iff] using others
    have last : ((before ++ child :: after).filter fun c => childKey c = targetKey t).getLast? =
        some child := by
      simp [List.filter_append, same, nothing]
    rw [last]
    exact slot.get_set _ t
  · intro strangers
    have nothing : (children.filter fun c => childKey c = targetKey t) = [] := by
      simpa [List.filter_eq_nil_iff] using strangers
    rw [nothing]
    rfl
  · split
    · exact slot.beside_set _ t
    · rw [Slot.Beside, slot.set_get]

/-- **Attaching loses and invents no child.** For every batch, every list of children, all keys and
every slot: each target is given, behind what its list held, exactly the children of its key in the
order they came, or, in a slot for one, the last of them, with nothing else of it changed and the
targets in their order. The keys to fetch by are the keys of the targets, each once and in the order
of first occurrence; and what is fetched by them is attached as the whole list would be. -/
theorem children_attached_by_key (targetKey : τ → κ) (childKey : χ → κ) (children : List χ)
    (targets : List τ) :
    (∀ slot, List.Forall₂ (GivenAll targetKey childKey children slot) targets
      (attachMany targetKey childKey slot.extend children targets)) ∧
    (∀ slot, List.Forall₂ (GivenLast targetKey childKey children slot) targets
      (attachOne targetKey childKey slot.put children targets)) ∧
    (∀ k, k ∈ distinctKeys targetKey targets ↔ ∃ t ∈ targets, targetKey t = k) ∧
    (distinctKeys targetKey targets).Nodup ∧
    ((distinctKeys targetKey targets).Pairwise fun a b =>
      (targets.map targetKey).idxOf a < (targets.map targetKey).idxOf b) ∧
    let fetched := children.filter fun c => childKey c ∈ distinctKeys targetKey targets
    (∀ extend : List χ → τ → τ, attachMany targetKey childKey extend fetched targets =
      attachMany targetKey childKey extend children targets) ∧
    ∀ put, attachOne targetKey childKey put fetched targets =
      attachOne targetKey childKey put children targets := by
  have increasing := distinctKeys_increasing targetKey targets
  have once : (distinctKeys targetKey targets).Nodup := by
    refine increasing.imp fun {a b} earlier same => ?_
    subst same
    exact Nat.lt_irrefl _ earlier
  refine ⟨fun slot => givenAll targetKey childKey children slot targets,
    fun slot => givenLast targetKey childKey children slot targets,
    fun k => by rw [mem_distinctKeys, List.mem_map],
    once, increasing, fun extend => ?_, fun put => ?_⟩
  · refine List.map_congr_left fun t member => ?_
    rw [Groups.get_group, Groups.get_group, filter_fetched targetKey childKey children member]
  · refine List.map_congr_left fun t member => ?_
    rw [Groups.get_group, Groups.get_group, filter_fetched targetKey childKey children member]

/-- Two targets share a key, one child has a key of its own, and its target none. -/
example :
    let children := [(1, 'x'), (7, 'y'), (1, 'z')]
    attachMany Prod.fst Prod.fst Slot.second.extend children [(1, [(1, 'a')]), (2, []), (1, [])] =
        [(1, [(1, 'a'), (1, 'x'), (1, 'z')]), (2, []), (1, [(1, 'x'), (1, 'z')])] ∧
      attachOne Prod.fst Prod.fst Slot.second.put children [(1, none), (2, some (2, 'b'))] =
        [(1, some (1, 'z')), (2, some (2, 'b'))] ∧
      distinctKeys Prod.fst [(1, 'p'), (2, 'q'), (1, 'r')] = [1, 2] := by
  decide

end QueryBind.Attach
