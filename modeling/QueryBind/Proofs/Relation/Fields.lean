/-
# QueryBind.Proofs.Relation.Fields — loaders that write the field of their relation

The data of an object come apart into a core and one field for each relation (`Fields`). A relation
owns its field when its loader writes nothing else, and its children are found nowhere else
(`Relation.OwnsField`). What is done behind a relation is then an edit of its field, too
(`Relation.OwnsField.mapChildren_eq_edit`), and edits of different fields commute
(`Fields.edit_comm`). So a load at the end of a way is one function of each object at its beginning
(`Model.put_map_edit`), and two loads commute unless one is on the way to the other
(`Model.effect_comm`).
-/
import QueryBind.Proofs.Relation.Separation

namespace QueryBind

set_option autoImplicit false

variable {σ α κ φ : Type}

/-- The data of an object taken apart: a core that no relation writes, and a field for each relation
of its type. Of the fields, only that they are apart counts. -/
structure Fields (α κ φ : Type) where
  core : α → κ
  get : (type : Nat) → (name : String) → α → φ
  set : (type : Nat) → (name : String) → φ → α → α
  core_set : ∀ type name v x, core (set type name v x) = core x
  get_set : ∀ {type name other}, other ≠ name → ∀ v x,
    get type other (set type name v x) = get type other x
  set_comm : ∀ {type name other}, other ≠ name → ∀ v w x,
    set type other w (set type name v x) = set type name v (set type other w x)

namespace Fields

variable (fields : Fields α κ φ) (type : Nat)

/-- The object with a field rewritten, from the core and what was in the field. -/
def edit (name : String) (f : κ → φ → φ) (x : α) : α :=
  fields.set type name (f (fields.core x) (fields.get type name x)) x

variable {name other : String}

theorem get_edit (apart : other ≠ name) (f : κ → φ → φ) (x : α) :
    fields.get type other (fields.edit type name f x) = fields.get type other x :=
  fields.get_set apart _ x

theorem edit_comm (apart : other ≠ name) (f g : κ → φ → φ) (x : α) :
    fields.edit type other g (fields.edit type name f x) =
      fields.edit type name f (fields.edit type other g x) := by
  simp only [edit, fields.core_set, fields.get_set apart, fields.get_set apart.symm]
  exact fields.set_comm apart _ _ x

end Fields

/-! ## One relation -/

namespace Relation

/-- The object with each of its children changed. -/
def mapChildren (r : Relation σ α) (change : α → α) (x : α) : α :=
  r.replace ((r.children x).map change) x

/-- The relation keeps to its own field. Its loader always succeeds, and rewrites the field of each
object from the object's core and what was in the field; the children are found in the field, and
replaced there. -/
structure OwnsField (exec : Executor σ) (fields : Fields α κ φ) (type : Nat) (name : String)
    (value : κ → φ → φ) (r : Relation σ α) : Prop where
  load : ∀ singular targets trace, ((r.load exec singular targets).run trace).1 =
    (.ok (), targets.map (fields.edit type name value))
  children : ∃ read : φ → List α, ∀ x, r.children x = read (fields.get type name x)
  replace : ∃ write : List α → φ → φ, ∀ {cs x}, cs.length = (r.children x).length →
    r.replace cs x = fields.set type name (write cs (fields.get type name x)) x

variable {r r' : Relation σ α}

theorem mapChildren_mapChildren (f g : α → α) (x : α) :
    r.mapChildren g (r.mapChildren f x) = r.mapChildren (g ∘ f) x := by
  have same (h : α → α) : ((r.children x).map h).length = (r.children x).length :=
    List.length_map h
  have found : r.children (r.replace ((r.children x).map f) x) = (r.children x).map f :=
    r.children_replace (same f)
  simp only [mapChildren, found, List.map_map]
  exact r.replace_replace (same f) (same (g ∘ f))

/-- Children changed one by one, for a whole batch. -/
theorem replaceAll_map (change : α → α) (targets : List α) :
    r.replaceAll targets ((r.allChildren targets).map change) =
      targets.map (r.mapChildren change) := by
  induction targets with
  | nil => rfl
  | cons t rest ih =>
      have own : ((r.allChildren (t :: rest)).map change).take (r.children t).length =
          (r.children t).map change := by
        rw [allChildren_cons, List.map_append]
        exact List.take_left' (List.length_map change)
      have others : ((r.allChildren (t :: rest)).map change).drop (r.children t).length =
          (r.allChildren rest).map change := by
        rw [allChildren_cons, List.map_append]
        exact List.drop_left' (List.length_map change)
      rw [replaceAll, own, others, ih]
      rfl

namespace OwnsField

variable {exec : Executor σ} {fields : Fields α κ φ} {type : Nat} {name other : String}
  {value value' : κ → φ → φ}

/-- What is done to the children is an edit of the field that they are in. -/
theorem mapChildren_eq_edit (owns : r.OwnsField exec fields type name value) (change : α → α) :
    ∃ f, r.mapChildren change = fields.edit type name f := by
  obtain ⟨read, found⟩ := owns.children
  obtain ⟨write, replaced⟩ := owns.replace
  refine ⟨fun _ v => write ((read v).map change) v, funext fun x => ?_⟩
  rw [mapChildren, replaced (List.length_map change), found]
  rfl

/-- An edit of another field leaves the children where they are. -/
theorem map_children_edit (owns : r.OwnsField exec fields type other value)
    (apart : other ≠ name) (f : κ → φ → φ) (targets : List α) :
    (targets.map (fields.edit type name f)).map r.children = targets.map r.children := by
  obtain ⟨read, found⟩ := owns.children
  rw [List.map_map]
  refine List.map_congr_left fun x _ => ?_
  rw [Function.comp, found, found, fields.get_edit type apart]

theorem leavesAlone (owns : r.OwnsField exec fields type name value)
    (owns' : r'.OwnsField exec fields type other value') (apart : other ≠ name) :
    r.LeavesAlone exec r' := by
  constructor
  · intro singular targets trace
    rw [owns.load]
    exact owns'.map_children_edit apart value targets
  · intro cs x fits
    obtain ⟨read, found⟩ := owns'.children
    obtain ⟨write, replaced⟩ := owns.replace
    rw [replaced fits, found, found, fields.get_set apart]

end OwnsField

end Relation

/-! ## The end of a way -/

namespace Model

variable (m : Model σ α) (names : List String) (exec : Executor σ) (fields : Fields α κ φ)
  (value : (type : Nat) → (name : String) → κ → φ → φ)

/-- The relations with these names keep to their own fields. -/
def OwnFields : Prop :=
  ∀ type name r, name ∈ names → m.relation? type name = some r →
    r.OwnsField exec fields type name (value type name)

/-- What the loader at the end of a way does to an object at the beginning. -/
def effect : (type : Nat) → (way : List String) → (name : String) → α → α
  | type, [], name => fields.edit type name (value type name)
  | type, first :: way, name =>
      match m.relation? type first with
      | some r => r.mapChildren (effect r.child way name)
      | none => id

variable {m names exec fields value}

theorem separate_of_ownFields (own : m.OwnFields names exec fields value) :
    m.Separate names exec :=
  fun type name other r r' known known' apart related related' =>
    (own type name r known related).leavesAlone (own type other r' known' related') apart

/-- The objects at the end of a way edited and put back are an effect on those at its beginning. -/
theorem putFrom_map_edit {f g : Focus α} {way : List String}
    (leads : m.focusFrom? f way = some g) (name : String) (xs : List α) :
    g.put ((g.batch xs).map (fields.edit g.type name (value g.type name))) xs =
      f.put ((f.batch xs).map (m.effect fields value f.type way name)) xs := by
  induction way generalizing f with
  | nil =>
      obtain rfl : f = g := Option.some.inj leads
      rfl
  | cons first way ih =>
      simp only [focusFrom?] at leads
      cases related : m.relation? f.type first with
      | none => simp [related] at leads
      | some r =>
          rw [related] at leads
          have through : m.effect fields value f.type (first :: way) name =
              r.mapChildren (m.effect fields value r.child way name) := by
            simp [effect, related]
          rw [ih leads, through, ← Relation.replaceAll_map]
          rfl

theorem put_map_edit {type : Nat} {way : List String} {f : Focus α}
    (leads : m.focus? type way = some f) (name : String) (xs : List α) :
    f.put ((f.batch xs).map (fields.edit f.type name (value f.type name))) xs =
      xs.map (m.effect fields value type way name) :=
  putFrom_map_edit leads name xs

/-- An effect behind a relation is an edit of the relation's field. -/
theorem effect_eq_edit (own : m.OwnFields names exec fields value) {type : Nat} {first : String}
    (known : first ∈ names) (way : List String) (name : String) :
    m.effect fields value type (first :: way) name = id ∨
      ∃ f, m.effect fields value type (first :: way) name = fields.edit type first f := by
  rw [effect]
  cases related : m.relation? type first with
  | none => exact .inl rfl
  | some r => exact .inr ((own type first r known related).mapChildren_eq_edit _)

/-- An edit of a field commutes with what is done behind other relations. -/
theorem edit_effect_comm (own : m.OwnFields names exec fields value) {type : Nat}
    {first name : String} (known : first ∈ names) (apart : name ≠ first) (f : κ → φ → φ)
    (way : List String) (last : String) (x : α) :
    fields.edit type name f (m.effect fields value type (first :: way) last x) =
      m.effect fields value type (first :: way) last (fields.edit type name f x) := by
  rcases effect_eq_edit own known way last with nothing | ⟨g, edits⟩
  · rw [nothing]
    rfl
  · rw [edits]
    exact fields.edit_comm type apart g f x

/-- Two effects commute unless one is on the way to the other. -/
theorem effect_comm (own : m.OwnFields names exec fields value) {type : Nat}
    {way way' : List String} {name name' : String}
    (known : ∀ n ∈ way ++ [name], n ∈ names) (known' : ∀ n ∈ way' ++ [name'], n ∈ names)
    (apart : ¬ way ++ [name] <+: way' ++ [name']) (apart' : ¬ way' ++ [name'] <+: way ++ [name])
    (x : α) :
    m.effect fields value type way name (m.effect fields value type way' name' x) =
      m.effect fields value type way' name' (m.effect fields value type way name x) := by
  induction way generalizing type way' x with
  | nil =>
      cases way' with
      | nil =>
          have different : name ≠ name' := fun same => apart (by simp [same])
          exact fields.edit_comm type different _ _ x
      | cons first' way' =>
          have different : name ≠ first' := by
            rintro rfl
            exact apart (List.cons_prefix_cons.mpr ⟨rfl, List.nil_prefix⟩)
          exact edit_effect_comm own (known' first' List.mem_cons_self) different _ way' name' x
  | cons first way ih =>
      have mentioned : first ∈ names := known first List.mem_cons_self
      cases way' with
      | nil =>
          have different : name' ≠ first := by
            rintro rfl
            exact apart' (List.cons_prefix_cons.mpr ⟨rfl, List.nil_prefix⟩)
          exact (edit_effect_comm own mentioned different _ way name x).symm
      | cons first' way' =>
          have mentioned' : first' ∈ names := known' first' List.mem_cons_self
          by_cases same : first = first'
          · subst same
            simp only [effect]
            cases related : m.relation? type first with
            | none => rfl
            | some r =>
                -- both work on the children of one relation
                simp only [Relation.mapChildren_mapChildren]
                refine congrArg (r.mapChildren · x) (funext fun child => ?_)
                refine ih (fun n inside => known n (List.mem_cons_of_mem _ inside))
                  (fun n inside => known' n (List.mem_cons_of_mem _ inside)) ?_ ?_ child
                · exact fun within => apart (List.cons_prefix_cons.mpr ⟨rfl, within⟩)
                · exact fun within => apart' (List.cons_prefix_cons.mpr ⟨rfl, within⟩)
          · rcases effect_eq_edit own mentioned way name with nothing | ⟨f, edits⟩
            · rw [nothing]
              rfl
            · rw [edits]
              exact edit_effect_comm own mentioned' same f way' name' x

/-- An effect changes nothing beside the way and its end. -/
theorem beside_effect (own : m.OwnFields names exec fields value) {type : Nat} {f : Focus α}
    {way : List String} {name : String} (leads : m.focus? type way = some f)
    (known : ∀ n ∈ way ++ [name], n ∈ names) (xs : List α) :
    m.Beside names type (way ++ [name]) xs (xs.map (m.effect fields value type way name)) := by
  obtain ⟨mentioned, last⟩ := List.forall_mem_append.mp known
  have listed : name ∈ names := last name (List.mem_singleton_self _)
  have separate : m.Separate names exec := separate_of_ownFields own
  rw [← put_map_edit leads]
  refine beside_put separate leads mentioned (List.length_map _) ?_
  refine ⟨List.length_map _, fun other r' mentioned' different related' => ?_, fun _ _ => trivial⟩
  exact (own f.type other r' mentioned' related').map_children_edit different _ _

end Model

end QueryBind
