/-
# QueryBind.Proofs.Error.Wrapping — an error on its way to the caller

An error is told with the operations and the relationships it passes on its way out, in any order: a
loader runs queries, and a query loads relationships. A relationship always adds a layer. An operation
adds one unless the error has that of another operation outermost or is a bare missing row
(`Error.inOperation_cases`), so of several operations in a row the first is told
(`Error.wrap_operations`).

What holds of an error however it was wrapped is `Error.Wraps`: its cause is the last of the chain of
its sources, no operation stands right around an operation or a missing row, it is worth retrying just
when its cause is, and its relationships are told in their order. Each kind of wrapping keeps this
(`Error.Wraps.inOperation`, `Error.Wraps.inRelationship`), and so any sequence of them does
(`Error.Wraps.wrap`).
-/
import QueryBind.Error

namespace QueryBind

set_option autoImplicit false

/-- What an error passes on its way out. -/
inductive Wrapping where
  | operation (name : String)
  | relationship (name : String)
  deriving DecidableEq, Repr

namespace Wrapping

def apply : Wrapping → Error → Error
  | .operation name => Error.inOperation name
  | .relationship name => Error.inRelationship name

def relationship? : Wrapping → Option String
  | .operation _ => none
  | .relationship name => some name

end Wrapping

namespace Error

/-- The error is not wrapped in anything. -/
def IsCause : Error → Prop
  | .operation _ _ => False
  | .eagerLoad _ _ => False
  | _ => True

/-- The error and its sources, outermost first. -/
def chain : Error → List Error
  | .operation name source => .operation name source :: source.chain
  | .eagerLoad relationship source => .eagerLoad relationship source :: source.chain
  | cause => [cause]

/-- The relationship that the outermost layer names. -/
def relationship? : Error → Option String
  | .eagerLoad relationship _ => some relationship
  | _ => none

/-- The relationships that the error is told with, innermost first. -/
def relationships (e : Error) : List String := e.chain.reverse.filterMap relationship?

@[simp] theorem relationships_operation (name : String) (e : Error) :
    (operation name e).relationships = e.relationships := by
  simp [relationships, chain, relationship?]

@[simp] theorem relationships_eagerLoad (relationship : String) (e : Error) :
    (eagerLoad relationship e).relationships = e.relationships ++ [relationship] := by
  simp [relationships, chain, relationship?]

/-- An operation is not told around the error. -/
def KeepsBare : Error → Prop
  | .notFound _ => True
  | .operation _ _ => True
  | _ => False

/-- The error with the wrappings added, the first one innermost. -/
def wrap (wrappings : List Wrapping) (e : Error) : Error :=
  wrappings.foldl (fun e w => w.apply e) e

theorem wrap_append (before after : List Wrapping) (e : Error) :
    e.wrap (before ++ after) = (e.wrap before).wrap after := List.foldl_append

/-! ## One wrapping -/

/-- An operation leaves the error as it is, or adds itself as the outermost layer. -/
theorem inOperation_cases (name : String) (e : Error) :
    (e.KeepsBare ∧ e.inOperation name = e) ∨
      (¬ e.KeepsBare ∧ e.inOperation name = .operation name e) := by
  cases e with
  | notFound what => exact .inl ⟨trivial, rfl⟩
  | operation inner source => exact .inl ⟨trivial, rfl⟩
  | _ => exact .inr ⟨id, rfl⟩

theorem keepsBare_inOperation (name : String) (e : Error) : (e.inOperation name).KeepsBare := by
  rcases inOperation_cases name e with ⟨bare, same⟩ | ⟨-, added⟩
  · rwa [same]
  · rw [added]
    trivial

/-- Around an operation no other is told. -/
theorem inOperation_inOperation (first second : String) (e : Error) :
    (e.inOperation first).inOperation second = e.inOperation first := by
  rcases inOperation_cases second (e.inOperation first) with ⟨-, same⟩ | ⟨around, -⟩
  · exact same
  · exact absurd (keepsBare_inOperation first e) around

@[simp] theorem isNotFound_inOperation (name : String) (e : Error) :
    (e.inOperation name).isNotFound = e.isNotFound := by
  cases e <;> rfl

@[simp] theorem isTimeout_inOperation (name : String) (e : Error) :
    (e.inOperation name).isTimeout = e.isTimeout := by
  cases e <;> rfl

/-- A layer is added around the others. -/
theorem chain_suffix_apply (w : Wrapping) (e : Error) : e.chain <:+ (w.apply e).chain := by
  cases w with
  | relationship name => exact List.suffix_cons _ _
  | operation name =>
      show e.chain <:+ (e.inOperation name).chain
      rcases inOperation_cases name e with ⟨-, same⟩ | ⟨-, added⟩
      · simp only [same, List.suffix_refl]
      · rw [added]
        exact List.suffix_cons _ _

theorem chain_suffix_wrap (wrappings : List Wrapping) (e : Error) :
    e.chain <:+ (e.wrap wrappings).chain := by
  induction wrappings generalizing e with
  | nil => exact List.suffix_refl _
  | cons w rest ih => exact (chain_suffix_apply w e).trans (ih (w.apply e))

/-- Of several operations in a row the first is told. -/
theorem wrap_operations (first : String) (later : List String) (e : Error) :
    e.wrap ((first :: later).map .operation) = e.inOperation first := by
  induction later with
  | nil => rfl
  | cons second rest ih =>
      calc e.wrap ((first :: second :: rest).map .operation)
          = ((e.inOperation first).inOperation second).wrap (rest.map .operation) := rfl
        _ = (e.inOperation first).wrap (rest.map .operation) := by rw [inOperation_inOperation]
        _ = e.inOperation first := ih

/-! ## Any number of wrappings -/

/-- The error is its cause in layers that name the relationships, innermost first. -/
structure Wraps (cause : Error) (relationships : List String) (e : Error) : Prop where
  ends : e.chain.getLast? = some cause
  named : e.relationships = relationships
  /-- No operation is told right around an operation or a bare missing row. -/
  apart : ∀ name source, .operation name source ∈ e.chain → ¬ source.KeepsBare
  configuration : e.isConfiguration = cause.isConfiguration

namespace Wraps

variable {cause e : Error} {relationships : List String}

theorem of_isCause (unwrapped : cause.IsCause) : Wraps cause [] cause := by
  cases cause with
  | operation name source => cases unwrapped
  | eagerLoad relationship source => cases unwrapped
  | _ =>
      refine ⟨rfl, rfl, fun name source member => ?_, rfl⟩
      cases List.mem_singleton.mp member

theorem inOperation (wraps : Wraps cause relationships e) (name : String) :
    Wraps cause relationships (e.inOperation name) := by
  rcases inOperation_cases name e with ⟨-, same⟩ | ⟨around, added⟩
  · rwa [same]
  · rw [added]
    refine ⟨?_, ?_, ?_, wraps.configuration⟩
    · rw [chain, List.getLast?_cons, wraps.ends]
      rfl
    · rw [relationships_operation, wraps.named]
    · intro inner source member
      rcases List.mem_cons.mp member with same | member
      · obtain ⟨-, rfl⟩ := Error.operation.inj same
        exact around
      · exact wraps.apart inner source member

theorem inRelationship (wraps : Wraps cause relationships e) (name : String) :
    Wraps cause (relationships ++ [name]) (e.inRelationship name) := by
  refine ⟨?_, ?_, ?_, wraps.configuration⟩
  · rw [Error.inRelationship, chain, List.getLast?_cons, wraps.ends]
    rfl
  · rw [Error.inRelationship, relationships_eagerLoad, wraps.named]
  · intro inner source member
    rcases List.mem_cons.mp member with same | member
    · cases same
    · exact wraps.apart inner source member

theorem wrap (wraps : Wraps cause relationships e) (wrappings : List Wrapping) :
    Wraps cause (relationships ++ wrappings.filterMap Wrapping.relationship?)
      (e.wrap wrappings) := by
  induction wrappings generalizing relationships e with
  | nil => rwa [List.filterMap_nil, List.append_nil]
  | cons w rest ih =>
      cases w with
      | operation name => exact ih (wraps.inOperation name)
      | relationship name =>
          have later := ih (wraps.inRelationship name)
          rwa [List.append_assoc] at later

end Wraps

/-- **Wrapping keeps what an error is.** However a cause was wrapped, no operation is told right around
an operation or a missing row, the error is worth retrying just when the cause is, the cause is the
last of its sources and the relationships are told in their order. Operations in a row neither make a
missing row or a timeout nor hide one; the first of them may add a layer, with its name, and the others
none, and no wrapping takes a layer away. -/
theorem wrapping_keeps_classification {cause : Error} (unwrapped : cause.IsCause)
    (wrappings : List Wrapping) :
    let e := cause.wrap wrappings
    (∀ name source, .operation name source ∈ e.chain →
        (∀ inner behind, source ≠ .operation inner behind) ∧ ∀ what, source ≠ .notFound what) ∧
      e.isConfiguration = cause.isConfiguration ∧
      (∀ (first : String) (others : List String) (after : List Wrapping),
        let stretch := wrappings ++ (first :: others).map .operation
        let told := cause.wrap stretch
        told.isNotFound = e.isNotFound ∧ told.isTimeout = e.isTimeout ∧
          told = cause.wrap (wrappings ++ [.operation first]) ∧
          (told = e ∨ told = .operation first e) ∧
          told.chain <:+ (cause.wrap (stretch ++ after)).chain) ∧
      e.chain.getLast? = some cause ∧
      e.chain.reverse.filterMap relationship? = wrappings.filterMap Wrapping.relationship? := by
  intro e
  have wraps : Wraps cause (wrappings.filterMap Wrapping.relationship?) e :=
    (Wraps.of_isCause unwrapped).wrap wrappings
  refine ⟨fun name source member => ?_, wraps.configuration, fun first others after => ?_,
    wraps.ends, wraps.named⟩
  · have around := wraps.apart name source member
    constructor
    · rintro inner behind rfl
      exact around trivial
    · rintro what rfl
      exact around trivial
  · intro stretch told
    have run : told = e.inOperation first :=
      (wrap_append wrappings _ cause).trans (wrap_operations first others e)
    have one : cause.wrap (wrappings ++ [.operation first]) = e.inOperation first :=
      wrap_append wrappings _ cause
    have kept : told.chain <:+ (cause.wrap (stretch ++ after)).chain := by
      rw [wrap_append stretch]
      exact chain_suffix_wrap after told
    refine ⟨?_, ?_, run.trans one.symm, ?_, kept⟩
    · rw [run, isNotFound_inOperation]
    · rw [run, isTimeout_inOperation]
    · rw [run]
      exact (inOperation_cases first e).imp And.right And.right

/-- A loader's query fails on its mapping, and the query that asked for the loader tells it on. -/
theorem mistagged_classified :
    let cause : Error := .binding (.unknownColumn "tag" "Tag")
    let wrappings := [.operation "bind", .operation "query", .relationship "Tags",
      .operation "load", .relationship "Videos"]
    let e := cause.wrap wrappings
    cause.IsCause ∧
      e = .eagerLoad "Videos" (.operation "load" (.eagerLoad "Tags" (.operation "bind" cause))) ∧
      (.operation "bind" cause ∈ e.chain ∧ ∀ what, cause ≠ .notFound what) ∧
      e.isConfiguration = true ∧
      (e.inOperation "exec").isNotFound = false ∧
      e.chain.getLast? = some cause ∧
      e.chain.reverse.filterMap relationship? = ["Tags", "Videos"] := by
  intro cause wrappings e
  have unwrapped : cause.IsCause := trivial
  obtain ⟨apart, configuration, stretches, ends, named⟩ :=
    wrapping_keeps_classification unwrapped wrappings
  have member : .operation "bind" cause ∈ e.chain := by decide
  obtain ⟨notFound, -⟩ := stretches "exec" ["query"] [.relationship "Users"]
  exact ⟨unwrapped, rfl, ⟨member, (apart _ _ member).2⟩, configuration, notFound, ends, named⟩

end Error

end QueryBind
