/-
# QueryBind.Proofs.Data.List — lists that are cut, joined and gone through

Facts on lists of anything, for the theory of texts, tables and paths:

* what is found in a list that is related to another one, changed at a place or searched in order;
* the pieces of a list cut at a separator, and the list joined from pieces;
* the order of the steps of a fold (`foldl_eq_of_perm`);
* passes whose steps can fail. A pass succeeds when every step does (`mapM_eq_ok_iff`), and fails with
  the answer of the first step that does not (`mapM_eq_error_iff`).
-/
import Mathlib.Data.List.Forall2

set_option autoImplicit false

namespace Except

variable {α β ε : Type} {x : Except ε α} {f : α → Except ε β}

theorem bind_eq_ok_iff {b : β} : x >>= f = .ok b ↔ ∃ a, x = .ok a ∧ f a = .ok b := by
  cases x <;> simp [bind, Except.bind]

theorem bind_eq_error_iff {e : ε} :
    x >>= f = .error e ↔ x = .error e ∨ ∃ a, x = .ok a ∧ f a = .error e := by
  cases x <;> simp [bind, Except.bind]

end Except

namespace List

variable {α β ε : Type}

/-! ## Members and places -/

theorem exists_forall₂ {R : α → β → Prop} {xs : List α} (each : ∀ x ∈ xs, ∃ y, R x y) :
    ∃ ys, Forall₂ R xs ys := by
  induction xs with
  | nil => exact ⟨[], .nil⟩
  | cons x xs ih =>
      obtain ⟨y, first⟩ := each x mem_cons_self
      obtain ⟨ys, rest⟩ := ih fun x member => each x (mem_cons_of_mem _ member)
      exact ⟨y :: ys, .cons first rest⟩

theorem exists_mem_of_forall₂ {R : α → β → Prop} {xs : List α} {ys : List β}
    (related : Forall₂ R xs ys) {x : α} (member : x ∈ xs) : ∃ y ∈ ys, R x y := by
  induction related with
  | nil => cases member
  | cons first rest ih =>
      rcases mem_cons.mp member with rfl | member
      · exact ⟨_, mem_cons_self, first⟩
      · obtain ⟨y, listed, here⟩ := ih member
        exact ⟨y, mem_cons_of_mem _ listed, here⟩

theorem eq_take_append_cons_drop {xs : List α} {i : Nat} {x : α} (there : xs[i]? = some x) :
    xs = xs.take i ++ x :: xs.drop (i + 1) := by
  obtain ⟨inside, rfl⟩ := getElem?_eq_some_iff.mp there
  rw [← drop_eq_getElem_cons inside, take_append_drop]

theorem forall_mem_modify {P : α → Prop} {f : α → α} {xs : List α} (all : ∀ x ∈ xs, P x)
    (kept : ∀ x, P x → P (f x)) (i : Nat) : ∀ x ∈ xs.modify i f, P x := by
  intro y member
  obtain ⟨j, found⟩ := mem_iff_getElem?.mp member
  rw [getElem?_modify] at found
  obtain ⟨x, old, rfl⟩ := Option.map_eq_some_iff.mp found
  have before := all x (mem_of_getElem? old)
  split
  · exact kept x before
  · exact before

theorem map_modify {f : α → α} {g : α → β} {h : β → β} {xs : List α}
    (image : ∀ x ∈ xs, g (f x) = h (g x)) (i : Nat) :
    (xs.modify i f).map g = (xs.map g).modify i h := by
  refine ext_getElem? fun j => ?_
  rw [getElem?_map, getElem?_modify, getElem?_modify, getElem?_map]
  cases found : xs[j]? with
  | none => rfl
  | some x =>
      have same := image x (mem_of_getElem? found)
      by_cases here : i = j <;> simp [here, same]

/-- A list opens with the same elements whatever follows one that is not among them. -/
theorem isPrefix_append_cons_iff {e : α} {m : List α} (apart : e ∉ m) (s rest : List α) :
    m <+: s ++ e :: rest ↔ m <+: s := by
  induction m generalizing s with
  | nil => simp
  | cons c m ih =>
      obtain ⟨other, later⟩ := ne_and_not_mem_of_not_mem_cons apart
      cases s with
      | nil => simp [cons_prefix_cons, Ne.symm other]
      | cons d s => rw [cons_append, cons_prefix_cons, cons_prefix_cons, ih later]

/-- The numbers below a product, block by block. -/
theorem flatMap_range_mul (f : Nat → List α) (width count : Nat) :
    (range (width * count)).flatMap f =
      (range count).flatMap fun j => (range width).flatMap fun i => f (width * j + i) := by
  induction count with
  | zero => rfl
  | succ count ih =>
      rw [Nat.mul_succ, range_add, flatMap_append, ih, range_succ, flatMap_append,
        flatMap_singleton, flatMap_map]

section Least

variable {R : α → α → Prop} {xs : List α} (increasing : xs.Pairwise R) {p : α → Bool} {x : α}

include increasing

/-- The search of an increasing list finds the least of the elements that pass. -/
theorem least_of_find? (found : xs.find? p = some x) :
    ∀ y ∈ xs, p y = true → x = y ∨ R x y := by
  intro y member passes
  obtain ⟨-, earlier, later, split, refused⟩ := find?_eq_some_iff_append.mp found
  rw [split] at increasing member
  rcases mem_append.mp member with before | after
  · have not_passes := refused y before
    simp [passes] at not_passes
  · rcases mem_cons.mp after with rfl | after
    · exact .inl rfl
    · exact .inr (rel_of_pairwise_cons (pairwise_append.mp increasing).2.1 after)

theorem find?_eq_some_iff_least (asymm : ∀ a b, R a b → ¬ R b a) : xs.find? p = some x ↔
    (x ∈ xs ∧ p x = true) ∧ ∀ y ∈ xs, p y = true → x = y ∨ R x y := by
  constructor
  · intro found
    exact ⟨⟨mem_of_find?_eq_some found, find?_some found⟩, least_of_find? increasing found⟩
  · rintro ⟨⟨member, passes⟩, least⟩
    cases found : xs.find? p with
    | none => exact absurd passes (find?_eq_none.mp found x member)
    | some y =>
        have passes' : p y = true := find?_some found
        rcases least y (mem_of_find?_eq_some found) passes' with rfl | below
        · rfl
        · rcases least_of_find? increasing found x member passes with rfl | above
          · rfl
          · exact absurd above (asymm x y below)

end Least

/-! ## Cut lists -/

theorem subset_of_mem_splitOnP {p : α → Bool} {s piece : List α} (member : piece ∈ s.splitOnP p) :
    piece ⊆ s := by
  induction s generalizing piece with
  | nil =>
      obtain rfl : piece = [] := by simpa using member
      exact Subset.refl _
  | cons c rest ih =>
      rw [splitOnP_cons_eq_if_modifyHead] at member
      split at member
      · rcases mem_cons.mp member with rfl | member
        · exact nil_subset _
        · exact subset_cons_of_subset c (ih member)
      · cases pieces : rest.splitOnP p with
        | nil =>
            rw [pieces] at member
            cases member
        | cons first others =>
            rw [pieces, modifyHead_cons] at member
            rw [pieces] at ih
            rcases mem_cons.mp member with rfl | member
            · exact cons_subset_cons c (ih mem_cons_self)
            · exact subset_cons_of_subset c (ih (mem_cons_of_mem first member))

section Separated

variable [DecidableEq α] {separator : α} {s piece : List α}

theorem subset_of_mem_splitOn (member : piece ∈ s.splitOn separator) : piece ⊆ s := by
  rw [splitOn_eq_splitOnP] at member
  exact subset_of_mem_splitOnP member

/-- No piece has the separator in it. -/
theorem not_mem_of_mem_splitOn (member : piece ∈ s.splitOn separator) : separator ∉ piece := by
  induction s generalizing piece with
  | nil => simp_all
  | cons c rest ih =>
      rw [splitOn_cons_eq_if_modifyHead] at member
      obtain ⟨first, others, pieces⟩ := exists_cons_of_ne_nil (splitOn_ne_nil separator rest)
      rw [pieces] at member ih
      split at member
      · rcases mem_cons.mp member with rfl | below
        · exact not_mem_nil
        · exact ih below
      · next different =>
          rcases mem_cons.mp member with rfl | below
          · have absent : separator ∉ first := ih mem_cons_self
            have distinct : separator ≠ c := fun same => different (beq_iff_eq.mpr same.symm)
            exact not_mem_cons_of_ne_of_not_mem distinct absent
          · exact ih (mem_cons_of_mem _ below)

/-- A list is cut into one piece more than there are separators. -/
theorem length_splitOn (separator : α) (s : List α) :
    (s.splitOn separator).length = s.count separator + 1 := by
  simp only [splitOn_eq_splitOnP]
  induction s with
  | nil => rfl
  | cons c rest ih =>
      rw [splitOnP_cons_eq_if_modifyHead, count_cons]
      by_cases cut : (c == separator) = true
      · rw [if_pos cut, if_pos cut, length_cons, ih]
      · rw [if_neg cut, if_neg cut, length_modifyHead, ih, Nat.add_zero]

end Separated

/-! ## Joined lists -/

theorem intercalate_concat (separator : List α) {pieces : List (List α)} (some : pieces ≠ [])
    (last : List α) :
    separator.intercalate (pieces ++ [last]) = separator.intercalate pieces ++ separator ++ last := by
  induction pieces with
  | nil => exact absurd rfl some
  | cons first rest ih =>
      cases rest with
      | nil => simp [intercalate]
      | cons second rest =>
          have step := ih (cons_ne_nil _ _)
          rw [cons_append] at step
          simp only [cons_append, intercalate_cons_cons, step, append_assoc]

/-- A list joined from left to right, with the separator before every piece but the first. -/
theorem intercalate_map_range (separator : α) (piece : Nat → List α) (n : Nat) :
    [separator].intercalate ((range n).map piece) =
      (range n).flatMap fun i => (if i = 0 then [] else [separator]) ++ piece i := by
  induction n with
  | zero => rfl
  | succ n ih =>
      rw [range_succ, map_append, flatMap_append, flatMap_singleton, ← ih]
      by_cases first : n = 0
      · subst first
        simp [intercalate]
      · have some : (range n).map piece ≠ [] := by simpa using first
        rw [map_singleton, intercalate_concat _ some, if_neg first, append_assoc]

/-- A joined list and the first of its pieces. -/
theorem intercalate_eq_append (separator : α) (first : List α) (rest : List (List α)) :
    ∃ after, [separator].intercalate (first :: rest) = first ++ after ∧
      (after = [] ∨ ∃ behind, after = separator :: behind) := by
  cases rest with
  | nil => exact ⟨[], by simp [intercalate], .inl rfl⟩
  | cons second rest =>
      rw [intercalate_cons_cons, append_assoc]
      exact ⟨_, rfl, .inr ⟨_, rfl⟩⟩

/-- Two pieces have a separator between them. -/
theorem mem_intercalate_of_two_le {separator : α} {pieces : List (List α)}
    (several : 2 ≤ pieces.length) : separator ∈ [separator].intercalate pieces := by
  match pieces, several with
  | first :: second :: rest, _ =>
      rw [intercalate_cons_cons]
      simp

/-- The separators of a joined list, and those in its pieces. -/
theorem count_intercalate [DecidableEq α] (separator : α) {pieces : List (List α)}
    (some : pieces ≠ []) :
    ([separator].intercalate pieces).count separator + 1 =
      pieces.length + pieces.flatten.count separator := by
  induction pieces with
  | nil => exact absurd rfl some
  | cons first rest ih =>
      cases rest with
      | nil => simp [intercalate, Nat.add_comm]
      | cons second rest =>
          have step := ih (cons_ne_nil _ _)
          rw [intercalate_cons_cons, count_append, count_append, count_singleton_self,
            flatten_cons, count_append, length_cons]
          omega

/-- An element that is in no piece and not in the separator is not in the joined list. -/
theorem not_mem_intercalate {x : α} {separator : List α} (apart : x ∉ separator)
    {pieces : List (List α)} (none : ∀ piece ∈ pieces, x ∉ piece) :
    x ∉ separator.intercalate pieces := by
  induction pieces with
  | nil => exact not_mem_nil
  | cons first rest ih =>
      obtain ⟨here, later⟩ := forall_mem_cons.mp none
      cases rest with
      | nil => simpa [intercalate] using here
      | cons second rest =>
          rw [intercalate_cons_cons]
          simp only [mem_append, not_or]
          exact ⟨⟨here, apart⟩, ih later⟩

/-! ## Folds in two orders -/

section Orders

variable {step : β → α → β} {Above : α → α → Prop}

/-- A step that commutes with all before it can be taken first. -/
theorem foldl_append_cons {before after : List α} {x : α}
    (commute : ∀ y ∈ before, ∀ s, step (step s y) x = step (step s x) y) (s : β) :
    (before ++ x :: after).foldl step s = (before ++ after).foldl step (step s x) := by
  induction before generalizing s with
  | nil => rfl
  | cons y before ih =>
      obtain ⟨here, later⟩ := forall_mem_cons.mp commute
      rw [cons_append, foldl_cons, ih later, here s]
      rfl

/-- Two orders of the same steps come to the same, if no step stands behind one that it is above,
and any two of which none is above the other commute. -/
theorem foldl_eq_of_perm {xs ys : List α} (perm : xs.Perm ys) (once : xs.Nodup)
    (ordered : xs.Pairwise fun x y => ¬ Above y x) (ordered' : ys.Pairwise fun x y => ¬ Above y x)
    (commute : ∀ x ∈ xs, ∀ y ∈ xs, x ≠ y → ¬ Above x y → ¬ Above y x → ∀ s,
      step (step s x) y = step (step s y) x) (s : β) :
    xs.foldl step s = ys.foldl step s := by
  induction xs generalizing ys s with
  | nil => rw [nil_perm.mp perm]
  | cons x rest ih =>
      obtain ⟨fresh, once⟩ := nodup_cons.mp once
      obtain ⟨above_none, ordered⟩ := pairwise_cons.mp ordered
      obtain ⟨before, after, rfl⟩ := append_of_mem (perm.subset mem_cons_self)
      have perm' : rest.Perm (before ++ after) := (perm.trans perm_middle).cons_inv
      -- in the other order, the first step commutes with all that stand before it
      have earlier : ∀ y ∈ before, ∀ s, step (step s y) x = step (step s x) y := by
        intro y inside s
        have listed : y ∈ rest := perm'.symm.subset (mem_append_left _ inside)
        have apart : ¬ Above x y :=
          (pairwise_append.mp ordered').2.2 y inside x mem_cons_self
        have different : x ≠ y := fun same => fresh (same ▸ listed)
        exact (commute x mem_cons_self y (mem_cons_of_mem _ listed) different apart
          (above_none y listed) s).symm
      rw [foldl_append_cons earlier, foldl_cons]
      refine ih perm' once ordered ?_ (fun y inside z inside' => ?_) _
      · exact ordered'.sublist ((Sublist.refl before).append (sublist_cons_self x after))
      · exact commute y (mem_cons_of_mem _ inside) z (mem_cons_of_mem _ inside')

end Orders

/-! ## Passes that can fail -/

/-- A run over a list comes to an end if its first step does and the run from there on. -/
theorem foldlM_cons_eq_ok_iff {f : β → α → Except ε β} {start last : β} {x : α} {xs : List α} :
    (x :: xs).foldlM f start = .ok last ↔
      ∃ next, f start x = .ok next ∧ xs.foldlM f next = .ok last := by
  rw [foldlM_cons, Except.bind_eq_ok_iff]

section Pass

variable {f g : α → Except ε β} {xs : List α}

theorem mapM_congr (same : ∀ x ∈ xs, f x = g x) : xs.mapM f = xs.mapM g := by
  induction xs with
  | nil => rfl
  | cons x xs ih =>
      obtain ⟨first, others⟩ := forall_mem_cons.mp same
      rw [mapM_cons, mapM_cons, first, ih others]

/-- A pass over a list succeeds when it answers each element. -/
theorem mapM_eq_ok_iff {ys : List β} :
    xs.mapM f = .ok ys ↔ Forall₂ (fun x y => f x = .ok y) xs ys := by
  induction xs generalizing ys with
  | nil => simp [pure, Except.pure, eq_comm]
  | cons x xs ih =>
      have others (y : β) : (do let zs ← xs.mapM f; pure (y :: zs)) = Except.ok ys ↔
          ∃ zs, Forall₂ (fun x y => f x = .ok y) xs zs ∧ ys = y :: zs := by
        rw [Except.bind_eq_ok_iff]
        refine exists_congr fun zs => and_congr ih ⟨fun made => ?_, fun made => ?_⟩
        · exact (Except.ok.inj made).symm
        · rw [made]
          rfl
      simp only [mapM_cons, Except.bind_eq_ok_iff, others, forall₂_cons_left_iff, exists_and_left]

/-- A pass over a list fails with the answer to the first element that is refused. -/
theorem mapM_eq_error_iff {e : ε} :
    xs.mapM f = .error e ↔ ∃ earlier x later, xs = earlier ++ x :: later ∧
      (∀ y ∈ earlier, ∃ z, f y = .ok z) ∧ f x = .error e := by
  induction xs with
  | nil => simp [pure, Except.pure]
  | cons x xs ih =>
      rw [mapM_cons, Except.bind_eq_error_iff]
      constructor
      · rintro (refused | ⟨y, passed, onward⟩)
        · exact ⟨[], x, xs, rfl, forall_mem_nil _, refused⟩
        · rcases Except.bind_eq_error_iff.mp onward with refused | ⟨ys, -, made⟩
          · obtain ⟨earlier, z, later, rfl, others, refused⟩ := ih.mp refused
            exact ⟨x :: earlier, z, later, rfl, forall_mem_cons.mpr ⟨⟨y, passed⟩, others⟩, refused⟩
          · cases made
      · rintro ⟨earlier, z, later, split, passed, refused⟩
        cases earlier with
        | nil =>
            obtain ⟨rfl, -⟩ := cons.inj split
            exact .inl refused
        | cons w earlier =>
            obtain ⟨rfl, rfl⟩ := cons.inj split
            obtain ⟨⟨y, first⟩, others⟩ := forall_mem_cons.mp passed
            have later := ih.mpr ⟨earlier, z, later, rfl, others, refused⟩
            exact .inr ⟨y, first, Except.bind_eq_error_iff.mpr (.inl later)⟩

end Pass

end List
