/-
# QueryBind.Record.FieldPath — field positions packed into a word

A path leads through nested records to a field: one index for each level, the outermost first.
It is kept in 64 bits, one byte for each level from the lowest byte up; the bytes past the last
level are 255, which is therefore no index, and the highest byte always is, so a path has at
most seven levels.
-/
import QueryBind.Error

namespace QueryBind

set_option autoImplicit false

structure FieldPath where
  raw : UInt64
  deriving DecidableEq, Repr

namespace FieldPath

/-- The most levels a path may have. -/
def maxDepth : Nat := 7

/-- The byte that ends a path. -/
def terminator : Nat := 255

/-- The number whose bytes, lowest first, are the indices followed by terminators up to
`width` bytes. -/
def pack : (width : Nat) → List Nat → Nat
  | 0, _ => 0
  | width + 1, [] => terminator + 256 * pack width []
  | width + 1, i :: rest => i + 256 * pack width rest

/-- The indices before the first terminator among the `width` lowest bytes of a number. -/
def unpack : (width : Nat) → Nat → List Nat
  | 0, _ => []
  | width + 1, n => if n % 256 = terminator then [] else n % 256 :: unpack width (n / 256)

/-- The path of a list of indices. -/
def ofIndices (indices : List Nat) : Except BindingError FieldPath :=
  if indices.isEmpty then .error .emptyPath
  else if maxDepth < indices.length then .error (.pathTooDeep indices.length)
  else
    match indices.find? fun i => terminator ≤ i with
    | some i => .error (.indexTooLarge i)
    | none => .ok ⟨UInt64.ofNat (pack 8 indices)⟩

/-- The indices of a path, the outermost first. -/
def indices (p : FieldPath) : List Nat := unpack 8 p.raw.toNat

/-- The number of levels. -/
def depth (p : FieldPath) : Nat := p.indices.length

end FieldPath

end QueryBind
