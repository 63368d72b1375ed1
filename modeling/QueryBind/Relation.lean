/-
# QueryBind.Relation — relationships between objects

All objects of a model have one Lean type `α`; which record type an object has is known from where
it stands. A `Relation` of a type says how its children are loaded onto a batch of objects, and
where they are then found. A to-one relation has at most one child.
-/
import QueryBind.Executor
import QueryBind.Record
import QueryBind.Text.Quoted

namespace QueryBind

set_option autoImplicit false

/-- Loads the children of a batch. `singular` says that the batch belongs to a single result object.
The batch comes back with the children attached, whether the load succeeds or not. A loader leaves
the objects of its batch in their order, so an object is known by its place in the batch. -/
abbrev Loader (σ α : Type) :=
  Executor σ → (singular : Bool) → List α → Action σ (Except Error Unit × List α)

/-- The children are a part of their object: they can be replaced by as many others, which are then
found in their place, and nothing but the last replacement counts. -/
structure Relation (σ α : Type) where
  toOne : Bool
  /-- The record type of the children. -/
  child : Nat
  load : Loader σ α
  children : α → List α
  /-- The object with as many other children in place of its own. -/
  replace : List α → α → α
  /-- A loader hands back the batch object by object, each at its place. -/
  length_load : ∀ exec singular targets trace,
    ((load exec singular targets).run trace).1.2.length = targets.length
  replace_children : ∀ x, replace (children x) x = x
  children_replace : ∀ {cs x}, cs.length = (children x).length → children (replace cs x) = cs
  replace_replace : ∀ {cs ds x}, cs.length = (children x).length →
    ds.length = (children x).length → replace ds (replace cs x) = replace ds x

namespace Relation

variable {σ α : Type}

/-- The children of a batch, in the order of the objects and of their children. -/
def allChildren (r : Relation σ α) (targets : List α) : List α := targets.flatMap r.children

/-- The batch with all its children replaced, in the same order. -/
def replaceAll (r : Relation σ α) : List α → List α → List α
  | [], _ => []
  | t :: rest, children =>
      let count := (r.children t).length
      r.replace (children.take count) t :: replaceAll r rest (children.drop count)

end Relation

/-- The relations of one type, by name; a name occurs once. -/
abbrev Registry (σ α : Type) := List (String × Relation σ α)

namespace Registry

variable {σ α : Type}

/-- The registry with a relation under its name, in place of an earlier one. -/
def put (name : String) (relation : Relation σ α) (registry : Registry σ α) : Registry σ α :=
  registry.filter (fun entry => entry.1 != name) ++ [(name, relation)]

def get? (registry : Registry σ α) (name : String) : Option (Relation σ α) := registry.lookup name

def contains (registry : Registry σ α) (name : String) : Bool := (registry.get? name).isSome

/-- The names in order. -/
def names (registry : Registry σ α) : List String :=
  (registry.map (·.1)).mergeSort fun a b => decide (a ≤ b)

/-- The registry as it appears in diagnostics. -/
def diagnostic (registry : Registry σ α) : List Char :=
  "Relationships \x7b names: [".toList ++
    [',', ' '].intercalate (registry.names.map fun name => Text.quoted name.toList) ++
    "] \x7d".toList

end Registry

/-- Record types, what a bound record becomes, and the relations of each type. A type without a
registry has no relationships. -/
structure Model (σ α : Type) where
  schema : Schema
  ofRecord : Record → α
  registry : (type : Nat) → Option (Registry σ α)

end QueryBind
