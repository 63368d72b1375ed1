/-
# QueryBind.Proofs.Relation.Legs — the legs of load paths

The legs of paths are spelled by their dotted prefixes, because no segment has a dot in it
(`Leg.segments_path`, `Leg.eq_of_path_eq`). In the order of a walk, the legs on the way to a leg
come before it (`Leg.rooted_of_ofPaths`).
-/
import QueryBind.Proofs.Identifier.Characters
import QueryBind.Proofs.Relation.Traversal

namespace QueryBind.Leg

set_option autoImplicit false

/-! ## The spelling of legs -/

theorem prefix_of_mem_along {segments way : List String} {leg : Leg}
    (member : leg ∈ along way segments) : leg.way ++ [leg.name] <+: way ++ segments := by
  induction segments generalizing way with
  | nil => cases member
  | cons name rest ih =>
      rcases List.mem_cons.mp member with rfl | below
      · exact (List.prefix_append_right_inj way).mpr
          (List.cons_prefix_cons.mpr ⟨rfl, List.nil_prefix⟩)
      · simpa using ih below

/-- A leg goes a part of one of the paths. -/
theorem exists_path_of_mem {paths : List String} {leg : Leg} (member : leg ∈ ofPaths paths) :
    ∃ path ∈ paths, leg.way ++ [leg.name] <+: Model.segments path := by
  obtain ⟨path, listed, along⟩ := List.mem_flatMap.mp member
  exact ⟨path, listed, prefix_of_mem_along along⟩

theorem name_mem {paths : List String} {leg : Leg} (member : leg ∈ ofPaths paths) :
    ∀ name ∈ leg.way ++ [leg.name], name ∈ paths.flatMap Model.segments := by
  obtain ⟨path, listed, within⟩ := exists_path_of_mem member
  exact fun name inside => List.mem_flatMap.mpr ⟨path, listed, within.subset inside⟩

/-- The dotted prefix spells the leg. -/
theorem segments_path {paths : List String} {leg : Leg} (member : leg ∈ ofPaths paths) :
    Model.segments leg.path = leg.way ++ [leg.name] := by
  obtain ⟨path, -, within⟩ := exists_path_of_mem member
  have undotted : ∀ part ∈ (leg.way ++ [leg.name]).map String.toList, '.' ∉ part := by
    intro part inside
    obtain ⟨name, mentioned, rfl⟩ := List.mem_map.mp inside
    obtain ⟨chars, piece, rfl⟩ := List.mem_map.mp (within.subset mentioned)
    rw [String.toList_ofList]
    exact List.not_mem_of_mem_splitOn piece
  have spelled := List.splitOn_intercalate '.' undotted (by simp)
  rw [Model.segments, Leg.path, String.toList_intercalate]
  exact (congrArg (List.map String.ofList) spelled).trans (by simp)

theorem eq_of_concat_eq {leg other : Leg}
    (same : leg.way ++ [leg.name] = other.way ++ [other.name]) : leg = other := by
  obtain ⟨ways, names⟩ := List.append_inj' same rfl
  cases leg
  cases other
  simp_all

theorem eq_of_path_eq {paths : List String} {leg other : Leg} (member : leg ∈ ofPaths paths)
    (member' : other ∈ ofPaths paths) (same : leg.path = other.path) : leg = other := by
  refine eq_of_concat_eq ?_
  rw [← segments_path member, ← segments_path member', same]

/-! ## The order of legs -/

/-- The legs on the way to a leg are there, too. -/
def Rooted (legs : List Leg) : Prop :=
  ∀ leg ∈ legs, ∀ above : Leg, above.way ++ [above.name] <+: leg.way → above ∈ legs

theorem mem_of_prefix_along {segments way : List String} {before later : List Leg}
    (split : along way segments = before ++ later) {leg above : Leg} (member : leg ∈ before)
    (within : above.way ++ [above.name] <+: leg.way) :
    above.way ++ [above.name] <+: way ∨ above ∈ before := by
  induction segments generalizing way before with
  | nil =>
      obtain ⟨rfl, -⟩ := List.append_eq_nil_iff.mp split.symm
      cases member
  | cons name rest ih =>
      cases before with
      | nil => cases member
      | cons first before =>
          obtain ⟨rfl, onward⟩ := List.cons.inj split
          rcases List.mem_cons.mp member with rfl | below
          · exact .inl within
          · rcases ih onward below with earlier | found
            · rcases List.prefix_concat_iff.mp earlier with here | further
              · exact .inr (List.mem_cons.mpr (.inl (eq_of_concat_eq here)))
              · exact .inl further
            · exact .inr (List.mem_cons_of_mem _ found)

theorem rooted_of_along {segments : List String} {before later : List Leg}
    (split : along [] segments = before ++ later) : Rooted before := by
  intro leg member above within
  rcases mem_of_prefix_along split member within with top | found
  · exact absurd (List.prefix_nil.mp top) (by simp)
  · exact found

/-- The legs on the way to a leg come before it. -/
theorem rooted_of_ofPaths {paths : List String} {before later : List Leg}
    (split : ofPaths paths = before ++ later) : Rooted before := by
  induction paths generalizing before with
  | nil =>
      obtain ⟨rfl, -⟩ := List.append_eq_nil_iff.mp split.symm
      exact fun leg member => nomatch member
  | cons path rest ih =>
      rw [ofPaths, List.flatMap_cons] at split
      rcases List.append_eq_append_iff.mp split with ⟨more, rfl, others⟩ | ⟨more, first, -⟩
      · -- the first path is walked to its end
        intro leg member above within
        rcases List.mem_append.mp member with here | below
        · have whole : Rooted (along [] (Model.segments path)) :=
            rooted_of_along (List.append_nil _).symm
          exact List.mem_append_left _ (whole leg here above within)
        · exact List.mem_append_right _ (ih others leg below above within)
      · exact rooted_of_along first

end QueryBind.Leg
