/-
# QueryBind.Proofs.Record.Leaves — every leaf is a scalar field under its dotted name

A leaf is collected on the way down, with the trail and the qualifier carried along. Seen from the
type, its trail leads to a scalar field and its name is `Leaf.dotted` of the names on the trail, so
a compiled mapping gives each column the path of the scalar field that its leaf stands for.
-/
import QueryBind.Proofs.Data.List
import QueryBind.Proofs.Record.FieldPath
import QueryBind.Proofs.Record.Instance
import QueryBind.Record.Mapping

namespace QueryBind

set_option autoImplicit false

/-! ## Names -/

namespace Leaf

/-- The non-empty names, with dots between them. -/
def dotted (names : List String) : String := ".".intercalate (names.filter (· ≠ ""))

theorem dotted_eq_empty {names : List String} :
    dotted names = "" ↔ names.filter (· ≠ "") = [] := by
  constructor
  · intro empty
    cases kept : names.filter (· ≠ "") with
    | nil => rfl
    | cons name others =>
        have listed : name ∈ names.filter (· ≠ "") := kept ▸ List.mem_cons_self
        have full : name ≠ "" := by simpa using (List.mem_filter.mp listed).2
        simp only [dotted, kept] at empty
        cases others with
        | nil => exact absurd (by simpa using empty) full
        | cons other others =>
            rw [String.intercalate_cons_cons, String.append_assoc] at empty
            exact absurd (String.append_eq_empty_iff.mp empty).1 full
  · intro none_kept
    rw [dotted, none_kept, String.intercalate_nil]

/-- Names qualified one after the other are the dotted name of all. -/
theorem qualify_dotted (above : List String) (name : String) :
    qualify (dotted above) name = dotted (above ++ [name]) := by
  by_cases empty : name = ""
  · simp [qualify, dotted, empty]
  · have alone : [name].filter (· ≠ "") = [name] := by simp [empty]
    by_cases top : dotted above = ""
    · have nothing := dotted_eq_empty.mp top
      simp only [qualify, if_neg empty, if_pos top]
      rw [dotted, List.filter_append, nothing, alone, List.nil_append, String.intercalate_singleton]
    · have something : above.filter (· ≠ "") ≠ [] := fun nothing =>
        top (dotted_eq_empty.mpr nothing)
      simp only [qualify, if_neg empty, if_neg top]
      rw [dotted, dotted, List.filter_append, alone,
        String.intercalate_append_of_ne_nil something (by simp), String.intercalate_singleton]

end Leaf

namespace Schema

/-- The names of the fields that a trail passes, the field at its end included. -/
def names (s : Schema) : (type : Nat) → (trail : List Nat) → List String
  | _, [] => []
  | type, i :: rest =>
      match (s.fields type)[i]? with
      | some ⟨name, .nested inner _⟩ => name :: s.names inner rest
      | some ⟨name, .scalar _⟩ => [name]
      | none => []

/-! ## Leaves -/

/-- A leaf that was collected below a trail leads on from it, and its name goes on from the names
that qualify it. -/
theorem mem_leavesFrom {s : Schema} {levels : Nat} {above : List String} {trail : List Nat}
    {type : Nat} {leaf : Leaf}
    (member : leaf ∈ s.leavesFrom levels (Leaf.dotted above) trail (s.fields type)) :
    ∃ rest t, leaf.trail = trail ++ rest ∧ rest.length ≤ levels ∧
      s.shapeAt? type rest = some (.scalar t) ∧
      leaf.name = Leaf.dotted (above ++ s.names type rest) := by
  induction levels generalizing above trail type with
  | zero => simp [leavesFrom] at member
  | succ levels ih =>
      simp only [leavesFrom, List.mem_flatMap] at member
      obtain ⟨⟨⟨name, shape⟩, i⟩, listed, member⟩ := member
      have found : (s.fields type)[i]? = some ⟨name, shape⟩ :=
        List.mem_zipIdx_iff_getElem?.mp listed
      simp only [Leaf.qualify_dotted] at member
      cases shape with
      | scalar t =>
          obtain rfl : leaf = _ := by simpa using member
          exact ⟨[i], t, rfl, by simp, by simp [shapeAt?_cons, found, Shape.at?],
            by simp [names, found]⟩
      | nested inner hold =>
          obtain ⟨rest, t, same, short, leads, name_eq⟩ := ih member
          refine ⟨i :: rest, t, by simp [same], by simpa using short, ?_, ?_⟩
          · have some_index : rest ≠ [] := by
              rintro rfl
              simp [shapeAt?, Shape.at?] at leads
            rw [shapeAt?_below found some_index, leads]
          · simp [names, found, name_eq]

theorem mem_leaves {s : Schema} {type : Nat} {leaf : Leaf} (member : leaf ∈ s.leaves type) :
    ∃ t, s.shapeAt? type leaf.trail = some (.scalar t) ∧
      leaf.name = Leaf.dotted (s.names type leaf.trail) := by
  have member : leaf ∈ s.leavesFrom FieldPath.maxDepth (Leaf.dotted []) [] (s.fields type) := member
  obtain ⟨rest, t, same, -, leads, name_eq⟩ := mem_leavesFrom member
  obtain rfl : leaf.trail = rest := by simpa using same
  exact ⟨t, leads, by simpa using name_eq⟩

theorem length_trail_le {s : Schema} {type : Nat} {leaf : Leaf} (member : leaf ∈ s.leaves type) :
    leaf.trail.length ≤ FieldPath.maxDepth := by
  have member : leaf ∈ s.leavesFrom FieldPath.maxDepth (Leaf.dotted []) [] (s.fields type) := member
  obtain ⟨rest, t, same, short, -⟩ := mem_leavesFrom member
  rw [same]
  exact short

/-- A trail to a scalar field that is not too long is collected. -/
theorem mem_leavesFrom_of_scalar {s : Schema} {t : FieldType} {type : Nat} {trail : List Nat}
    (leads : s.shapeAt? type trail = some (.scalar t)) {levels : Nat} (short : trail.length ≤ levels)
    (above : List String) (way : List Nat) :
    ⟨Leaf.dotted (above ++ s.names type trail), way ++ trail⟩ ∈
      s.leavesFrom levels (Leaf.dotted above) way (s.fields type) := by
  induction type, trail, leads using scalar_induction generalizing levels above way with
  | last type i name leads found =>
      obtain ⟨levels, rfl⟩ : ∃ n, levels = n + 1 := ⟨levels - 1, by simp at short; omega⟩
      have listed : (⟨name, .scalar t⟩, i) ∈ (s.fields type).zipIdx :=
        List.mem_zipIdx_iff_getElem?.mpr found
      rw [leavesFrom, List.mem_flatMap]
      refine ⟨_, listed, ?_⟩
      simp [names, found, Leaf.qualify_dotted]
  | below type i name inner hold rest leads further found some_index ih =>
      obtain ⟨levels, rfl⟩ : ∃ n, levels = n + 1 := ⟨levels - 1, by simp at short; omega⟩
      have listed : (⟨name, .nested inner hold⟩, i) ∈ (s.fields type).zipIdx :=
        List.mem_zipIdx_iff_getElem?.mpr found
      have shorter : rest.length ≤ levels := by simpa using short
      have onward := ih shorter (above ++ [name]) (way ++ [i])
      rw [leavesFrom, List.mem_flatMap]
      refine ⟨_, listed, ?_⟩
      simpa [names, found, Leaf.qualify_dotted] using onward

/-- The scalar fields within seven levels are leaves. -/
theorem mem_leaves_of_scalar {s : Schema} {t : FieldType} {type : Nat} {trail : List Nat}
    (leads : s.shapeAt? type trail = some (.scalar t)) (short : trail.length ≤ FieldPath.maxDepth) :
    ⟨Leaf.dotted (s.names type trail), trail⟩ ∈ s.leaves type := by
  have member := mem_leavesFrom_of_scalar leads short [] []
  rw [List.nil_append, List.nil_append] at member
  exact member

theorem mem_of_resolve? {leaves : List Leaf} {column : String} {leaf : Leaf}
    (resolved : resolve? leaves column = some leaf) : leaf ∈ leaves := by
  rcases Option.or_eq_some_iff.mp resolved with exact_name | ⟨-, suffix⟩
  · exact List.mem_of_find?_eq_some exact_name
  · exact List.mem_of_find?_eq_some suffix

/-- A compiled mapping has one path for each column, that of the leaf the column stands for. -/
theorem mapping_eq_ok {s : Schema} {type : Nat} {columns : List String} {paths : List FieldPath}
    (compiled : s.mapping type columns = .ok paths) :
    List.Forall₂ (fun column path => ∃ leaf, resolve? (s.leaves type) column = some leaf ∧
      path.indices = leaf.trail) columns paths := by
  refine (List.mapM_eq_ok_iff.mp compiled).imp fun column path ok => ?_
  split at ok
  · next leaf resolved => exact ⟨leaf, resolved, FieldPath.indices_ofIndices ok⟩
  · cases ok

/-- Every path of a compiled mapping leads to a scalar field. -/
theorem isScalar_of_mapping {s : Schema} {type : Nat} {columns : List String}
    {paths : List FieldPath} (compiled : s.mapping type columns = .ok paths) :
    ∀ path ∈ paths, s.IsScalar type path.indices := by
  intro path member
  have mapped := mapping_eq_ok compiled
  obtain ⟨i, inside, rfl⟩ := List.getElem_of_mem member
  obtain ⟨leaf, resolved, trail⟩ := mapped.get (mapped.length_eq ▸ inside) inside
  obtain ⟨t, leads, -⟩ := mem_leaves (mem_of_resolve? resolved)
  exact ⟨t, trail ▸ leads⟩

end Schema

end QueryBind
