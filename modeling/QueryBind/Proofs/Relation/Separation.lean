/-
# QueryBind.Proofs.Relation.Separation — a load changes nothing beside its own relation

A relation leaves another one alone when its loader writes one field, where its own children are
found, and the children of the other are not found there (`Relation.LeavesAlone`). A load at the
end of a way then changes only what is behind its prefix (`Model.beside_put`), and a way that does
not go through the prefix reaches as many objects as before (`Model.length_reached_of_beside`).
-/
import QueryBind.Proofs.Relation.Focus

namespace QueryBind

set_option autoImplicit false

variable {σ α : Type}

namespace Relation

/-- The children of `other` are found outside the field that `r` loads and keeps its own in. -/
structure LeavesAlone (exec : Executor σ) (r other : Relation σ α) : Prop where
  load : ∀ singular targets trace,
    ((r.load exec singular targets).run trace).1.2.map other.children = targets.map other.children
  replace : ∀ {cs x}, cs.length = (r.children x).length →
    other.children (r.replace cs x) = other.children x

theorem map_children_replaceAll {exec : Executor σ} {r other : Relation σ α}
    (alone : r.LeavesAlone exec other) {targets children : List α}
    (fits : children.length = (r.allChildren targets).length) :
    (r.replaceAll targets children).map other.children = targets.map other.children := by
  induction targets generalizing children with
  | nil => rfl
  | cons t rest ih =>
      obtain ⟨own, others⟩ := length_take_drop fits
      rw [replaceAll, List.map_cons, List.map_cons, alone.replace own, ih others]

end Relation

namespace Model

section

variable (m : Model σ α) (names : List String)

/-- Of the relations with these names, each leaves the others of its type alone. -/
def Separate (exec : Executor σ) : Prop :=
  ∀ type name other r r', name ∈ names → other ∈ names → other ≠ name →
    m.relation? type name = some r → m.relation? type other = some r' → r.LeavesAlone exec r'

/-- Two batches of one type that differ only behind a way, as far as the relations with these names
show: beside the way they reach the same objects. -/
def Beside : (type : Nat) → (way : List String) → (xs ys : List α) → Prop
  | _, [], _, _ => True
  | type, name :: way, xs, ys =>
      ys.length = xs.length ∧
        (∀ other r, other ∈ names → other ≠ name → m.relation? type other = some r →
          ys.map r.children = xs.map r.children) ∧
        ∀ r, m.relation? type name = some r →
          Beside r.child way (r.allChildren xs) (r.allChildren ys)

end

variable {m : Model σ α} {names : List String} {exec : Executor σ}

/-- A way that does not go through the difference reaches as many objects in both batches. -/
theorem length_reached_of_beside {type : Nat} {changed way : List String} {xs ys : List α}
    (beside : m.Beside names type changed xs ys) (apart : ¬ changed <+: way)
    (named : ∀ name ∈ way, name ∈ names) :
    (m.reached type way ys).length = (m.reached type way xs).length := by
  induction way generalizing type changed xs ys with
  | nil =>
      cases changed with
      | nil => exact absurd List.nil_prefix apart
      | cons name changed => exact beside.1
  | cons first way ih =>
      cases changed with
      | nil => exact absurd List.nil_prefix apart
      | cons name changed =>
          obtain ⟨-, others, own⟩ := beside
          obtain ⟨known, named⟩ := List.forall_mem_cons.mp named
          simp only [reached]
          cases related : m.relation? type first with
          | none => rfl
          | some r =>
              by_cases same : first = name
              · subst same
                refine ih (own r related) (fun further => apart ?_) named
                exact List.cons_prefix_cons.mpr ⟨rfl, further⟩
              · have unchanged := others first r known same related
                simp only [List.flatMap_def, unchanged]

/-- What one loader changes in its batch. -/
theorem beside_load (separate : m.Separate names exec) {type : Nat} {name : String}
    (known : name ∈ names) {r : Relation σ α} (related : m.relation? type name = some r)
    (singular : Bool) (targets : List α) (trace : Trace σ) :
    m.Beside names type [name] targets
      ((r.load exec singular targets).run trace).1.2 := by
  refine ⟨r.length_load exec singular targets trace, ?_, fun _ _ => trivial⟩
  intro other r' mentioned different related'
  have alone := separate type name other r r' known mentioned different related related'
  exact alone.load singular targets trace

/-- What is changed behind a part is changed behind the whole, further down. -/
theorem beside_putFrom (separate : m.Separate names exec) {f g : Focus α} {way : List String}
    (leads : m.focusFrom? g way = some f) (known : ∀ name ∈ way, name ∈ names)
    {changed : List String} {xs ys : List α} (fits : ys.length = (f.batch xs).length)
    (beside : m.Beside names f.type changed (f.batch xs) ys) :
    ∃ zs, f.put ys xs = g.put zs xs ∧ zs.length = (g.batch xs).length ∧
      m.Beside names g.type (way ++ changed) (g.batch xs) zs := by
  induction way generalizing g with
  | nil =>
      obtain rfl : g = f := Option.some.inj leads
      exact ⟨ys, rfl, fits, beside⟩
  | cons name way ih =>
      simp only [focusFrom?] at leads
      cases related : m.relation? g.type name with
      | none => simp [related] at leads
      | some r =>
          rw [related] at leads
          obtain ⟨mentioned, known⟩ := List.forall_mem_cons.mp known
          obtain ⟨zs, put, whole, below⟩ := ih leads known
          refine ⟨r.replaceAll (g.batch xs) zs, put, Relation.length_replaceAll _ _,
            Relation.length_replaceAll _ _, ?_, ?_⟩
          · intro other r' mentioned' different related'
            have alone := separate g.type name other r r' mentioned mentioned' different related
              related'
            exact Relation.map_children_replaceAll alone whole
          · intro r' related'
            obtain rfl : r = r' := Option.some.inj (related.symm.trans related')
            rw [Relation.allChildren_replaceAll whole]
            exact below

/-- What is changed behind the objects at the end of a way is changed further down the way. -/
theorem beside_put (separate : m.Separate names exec) {type : Nat} {f : Focus α}
    {way : List String} (leads : m.focus? type way = some f) (known : ∀ name ∈ way, name ∈ names)
    {changed : List String} {xs ys : List α} (fits : ys.length = (f.batch xs).length)
    (beside : m.Beside names f.type changed (f.batch xs) ys) :
    m.Beside names type (way ++ changed) xs (f.put ys xs) := by
  obtain ⟨zs, put, -, below⟩ := beside_putFrom separate leads known fits beside
  rw [put]
  exact below

end Model

end QueryBind
