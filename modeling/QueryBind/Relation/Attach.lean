/-
# QueryBind.Relation.Attach — children handed to the objects they belong to

A loader fetches the children of a whole batch at once and hands them out by key. `distinctKeys`
are the keys to fetch by; `attachOne` gives each target the last child with its key, `attachMany`
all children with its key, in the order they came.
-/

namespace QueryBind.Attach

set_option autoImplicit false

variable {τ χ κ : Type} [DecidableEq κ]

/-- The keys of the targets, each once, in order of first occurrence. -/
def distinctKeys (key : τ → κ) (targets : List τ) : List κ :=
  targets.foldl (fun seen t => if key t ∈ seen then seen else seen ++ [key t]) []

/-- Children by key, in order of first occurrence of the keys. -/
abbrev Groups (κ χ : Type) := List (κ × List χ)

/-- The groups with one more child at the end of its group. -/
def Groups.add (k : κ) (child : χ) : Groups κ χ → Groups κ χ
  | [] => [(k, [child])]
  | (k', children) :: rest =>
      if k = k' then (k', children ++ [child]) :: rest
      else (k', children) :: Groups.add k child rest

def group (key : χ → κ) (children : List χ) : Groups κ χ :=
  children.foldl (fun groups child => Groups.add (key child) child groups) []

/-- The children with a key. -/
def Groups.get (groups : Groups κ χ) (k : κ) : List χ := (groups.lookup k).getD []

/-- The targets, each given the last child with its key by `put`, if there is one. -/
def attachOne (targetKey : τ → κ) (childKey : χ → κ) (put : χ → τ → τ) (children : List χ)
    (targets : List τ) : List τ :=
  let groups := group childKey children
  targets.map fun t =>
    match (groups.get (targetKey t)).getLast? with
    | some child => put child t
    | none => t

/-- The targets, each given all children with its key by `extend`. -/
def attachMany (targetKey : τ → κ) (childKey : χ → κ) (extend : List χ → τ → τ) (children : List χ)
    (targets : List τ) : List τ :=
  let groups := group childKey children
  targets.map fun t =>
    match groups.get (targetKey t) with
    | [] => t
    | found => extend found t

end QueryBind.Attach
