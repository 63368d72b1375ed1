/-
# QueryBind.Proofs.Text.Pattern — patterns and the order of their matches

A `Pattern` can match the head of a text in several ways; `Pattern.cuts` lists them in the order in
which a search by backtracking meets them. A run of characters as short as possible is tried shortest
first and one as long as possible longest first, and of two alternatives the first is tried before the
second. The match that counts is the first in the list.

What a pattern can match at all is said without that order (`Pattern.Spells`), and the list has exactly
these matches (`Pattern.mem_cuts`).
-/

namespace QueryBind

set_option autoImplicit false

inductive Pattern where
  /-- One character of a class. -/
  | one (accepts : Char → Bool)
  /-- Characters of a class, as few as possible. -/
  | fewest (accepts : Char → Bool)
  /-- Characters of a class, as many as possible. -/
  | most (accepts : Char → Bool)
  | seq (first second : Pattern)
  | either (first second : Pattern)

namespace Pattern

/-- The cuts of a text behind a run of characters of a class, the shortest run first. -/
def runs (accepts : Char → Bool) : List Char → List (List Char × List Char)
  | [] => [([], [])]
  | c :: rest =>
      ([], c :: rest) ::
        if accepts c then (runs accepts rest).map fun cut => (c :: cut.1, cut.2) else []

/-- The cuts of a text behind what the pattern matches, in the order in which they are tried. -/
def cuts : Pattern → List Char → List (List Char × List Char)
  | .one _, [] => []
  | .one accepts, c :: rest => if accepts c then [([c], rest)] else []
  | .fewest accepts, s => runs accepts s
  | .most accepts, s => (runs accepts s).reverse
  | .seq first second, s =>
      (first.cuts s).flatMap fun cut =>
        (second.cuts cut.2).map fun next => (cut.1 ++ next.1, next.2)
  | .either first second, s => first.cuts s ++ second.cuts s

/-- The texts that the pattern matches. -/
def Spells : Pattern → List Char → Prop
  | .one accepts, s => ∃ c, s = [c] ∧ accepts c = true
  | .fewest accepts, s => ∀ c ∈ s, accepts c = true
  | .most accepts, s => ∀ c ∈ s, accepts c = true
  | .seq first second, s => ∃ a b, s = a ++ b ∧ first.Spells a ∧ second.Spells b
  | .either first second, s => first.Spells s ∨ second.Spells s

theorem mem_runs_cons {accepts : Char → Bool} {c : Char} {s matched rest : List Char} :
    (matched, rest) ∈ runs accepts (c :: s) ↔
      (matched = [] ∧ rest = c :: s) ∨
        ∃ more, matched = c :: more ∧ accepts c = true ∧ (more, rest) ∈ runs accepts s := by
  rw [runs, List.mem_cons, Prod.mk.injEq]
  refine or_congr_right ?_
  constructor
  · intro later
    split at later
    · next accepted =>
        obtain ⟨⟨more, tail⟩, member, same⟩ := List.mem_map.mp later
        cases same
        exact ⟨more, rfl, accepted, member⟩
    · cases later
  · rintro ⟨more, rfl, accepted, member⟩
    rw [if_pos accepted]
    exact List.mem_map.mpr ⟨_, member, rfl⟩

theorem mem_runs {accepts : Char → Bool} {s matched rest : List Char} :
    (matched, rest) ∈ runs accepts s ↔
      s = matched ++ rest ∧ ∀ c ∈ matched, accepts c = true := by
  induction s generalizing matched with
  | nil =>
      rw [runs, List.mem_singleton, Prod.mk.injEq]
      constructor
      · rintro ⟨rfl, rfl⟩
        exact ⟨rfl, by simp⟩
      · rintro ⟨split, -⟩
        exact List.append_eq_nil_iff.mp split.symm
  | cons c s ih =>
      rw [mem_runs_cons]
      constructor
      · rintro (⟨rfl, rfl⟩ | ⟨more, rfl, accepted, member⟩)
        · exact ⟨rfl, by simp⟩
        · obtain ⟨split, all⟩ := ih.mp member
          exact ⟨by rw [split, List.cons_append], List.forall_mem_cons.mpr ⟨accepted, all⟩⟩
      · rintro ⟨split, all⟩
        cases matched with
        | nil => exact .inl ⟨rfl, split.symm⟩
        | cons d more =>
            obtain ⟨rfl, tail⟩ := List.cons.inj split
            obtain ⟨accepted, all⟩ := List.forall_mem_cons.mp all
            exact .inr ⟨more, rfl, accepted, ih.mpr ⟨tail, all⟩⟩

/-- The matches at the head of a text are those that the pattern can match at all. -/
theorem mem_cuts {p : Pattern} {s matched rest : List Char} :
    (matched, rest) ∈ p.cuts s ↔ s = matched ++ rest ∧ p.Spells matched := by
  induction p generalizing s matched rest with
  | one accepts =>
      cases s with
      | nil =>
          refine iff_of_false List.not_mem_nil ?_
          rintro ⟨split, c, rfl, -⟩
          cases split
      | cons c s =>
          rw [cuts]
          constructor
          · intro member
            split at member
            · next accepted =>
                cases List.mem_singleton.mp member
                exact ⟨rfl, c, rfl, accepted⟩
            · cases member
          · rintro ⟨split, d, rfl, accepted⟩
            obtain ⟨rfl, rfl⟩ := List.cons.inj split
            rw [if_pos accepted]
            exact List.mem_singleton_self _
  | fewest accepts => exact mem_runs
  | most accepts => exact List.mem_reverse.trans mem_runs
  | seq first second ihFirst ihSecond =>
      rw [cuts, List.mem_flatMap]
      constructor
      · rintro ⟨⟨a, tail⟩, firstCut, member⟩
        obtain ⟨⟨b, behind⟩, secondCut, same⟩ := List.mem_map.mp member
        cases same
        obtain ⟨rfl, spellsFirst⟩ := ihFirst.mp firstCut
        obtain ⟨rfl, spellsSecond⟩ := ihSecond.mp secondCut
        exact ⟨(List.append_assoc ..).symm, a, b, rfl, spellsFirst, spellsSecond⟩
      · rintro ⟨rfl, a, b, rfl, spellsFirst, spellsSecond⟩
        refine ⟨(a, b ++ rest), ihFirst.mpr ⟨List.append_assoc .., spellsFirst⟩, ?_⟩
        exact List.mem_map.mpr ⟨(b, rest), ihSecond.mpr ⟨rfl, spellsSecond⟩, rfl⟩
  | either first second ihFirst ihSecond =>
      rw [cuts, List.mem_append, ihFirst, ihSecond, ← and_or_left]
      rfl

end Pattern

end QueryBind
