/-
# QueryBind.Relation.Load — relationship paths loaded level by level

A load path names relations from the top down: `Comments.Author`. Each segment costs one load for
the whole batch of objects at that depth. A prefix of a path is loaded once: `LoadState` holds the
dotted prefixes whose loader succeeded, over all paths of a call and over calls that share the
state. A batch without objects ends its path quietly.
-/
import QueryBind.Relation

namespace QueryBind

set_option autoImplicit false

/-- The prefixes that are loaded, in loading order. -/
abbrev LoadState := List String

/-- How far loading came: the batch with what was attached to it, the loaded prefixes, and the
failure that ended it. -/
structure LoadProgress (α : Type) where
  outcome : Except Error Unit
  targets : List α
  state : LoadState

namespace Model

variable {σ α : Type}

/-- Load one relation of a batch, unless its prefix is loaded. -/
def loadSegment (exec : Executor σ) (relation : Relation σ α) (name path : String)
    (singular : Bool) (targets : List α) (state : LoadState) : Action σ (LoadProgress α) := do
  if state.contains path then
    Action.emit (.alreadyLoaded path)
    return ⟨.ok (), targets, state⟩
  else
    Action.emit (.loadingRelationship path targets.length singular)
    match ← relation.load exec singular targets with
    | (.ok (), loaded) => return ⟨.ok (), loaded, state ++ [path]⟩
    | (.error e, loaded) => return ⟨.error (e.inRelationship name), loaded, state⟩

/-- Load the segments of a path onto a batch of objects of one type; `walked` are the segments
that led to it. -/
def loadPath (m : Model σ α) (exec : Executor σ) : (type : Nat) → (walked segments : List String) →
    (singular : Bool) → List α → LoadState → Action σ (LoadProgress α)
  | _, _, [], _, targets, state => return ⟨.ok (), targets, state⟩
  | type, walked, name :: rest, singular, targets, state => do
      let path := ".".intercalate (walked ++ [name])
      match m.registry type with
      | none =>
          return ⟨.error (.config (.noRelationships path (m.schema.typeName type))), targets, state⟩
      | some registry =>
          match registry.get? name with
          | none =>
              return ⟨.error (.config (.unregistered path name (m.schema.typeName type))), targets,
                state⟩
          | some relation => do
              let loaded ← loadSegment exec relation name path singular targets state
              match loaded.outcome with
              | .error _ => return loaded
              | .ok () =>
                  let children := relation.allChildren loaded.targets
                  if rest.isEmpty || children.isEmpty then return loaded
                  else
                    let below ← loadPath m exec relation.child (walked ++ [name]) rest
                      (singular && relation.toOne) children loaded.state
                    let targets := relation.replaceAll loaded.targets below.targets
                    return { below with targets }

/-- The segments of a load path. -/
def segments (path : String) : List String := (path.toList.splitOn '.').map String.ofList

/-- Load paths in turn, up to the first failure. -/
def loadPaths (m : Model σ α) (exec : Executor σ) (type : Nat) (singular : Bool) :
    (paths : List String) → List α → LoadState → Action σ (LoadProgress α)
  | [], targets, state => return ⟨.ok (), targets, state⟩
  | path :: rest, targets, state => do
      let p ← m.loadPath exec type [] (segments path) singular targets state
      match p.outcome with
      | .error _ => return p
      | .ok () => loadPaths m exec type singular rest p.targets p.state

/-- Load paths onto a batch, with the prefixes in `state` loaded already. An empty batch needs no
loading. -/
def load (m : Model σ α) (exec : Executor σ) (type : Nat) (singular : Bool) (paths : List String)
    (targets : List α) (state : LoadState) : Action σ (LoadProgress α) :=
  if targets.isEmpty then return ⟨.ok (), targets, state⟩
  else m.loadPaths exec type singular paths targets state

end Model

end QueryBind
