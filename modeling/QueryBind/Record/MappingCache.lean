/-
# QueryBind.Record.MappingCache — compiled mappings, shared

A compiled mapping is kept under its type and column list, and every later request for the same
key gets the same entry. A request is three steps: look the key up, compile on a miss, and insert
unless another request did so in between; the entry that is in the cache after the last step is
the answer. Entries are told apart by the `serial` they were given when they were inserted.
-/
import QueryBind.Record.Mapping

namespace QueryBind

set_option autoImplicit false

structure MappingCache.Entry where
  serial : Nat
  paths : List FieldPath
  deriving DecidableEq, Repr

/-- The kept entries, by type and column list, the newest first. -/
structure MappingCache where
  entries : List ((Nat × List String) × MappingCache.Entry)

namespace MappingCache

def empty : MappingCache := ⟨[]⟩

/-- The entry kept for a key. -/
def lookup (cache : MappingCache) (type : Nat) (columns : List String) : Option Entry :=
  cache.entries.lookup (type, columns)

/-- The entry kept for a key after the paths were offered for it, and the cache that keeps it. -/
def offer (cache : MappingCache) (type : Nat) (columns : List String) (paths : List FieldPath) :
    Entry × MappingCache :=
  match cache.lookup type columns with
  | some entry => (entry, cache)
  | none =>
      let entry : Entry := ⟨cache.entries.length, paths⟩
      (entry, ⟨((type, columns), entry) :: cache.entries⟩)

/-- One request, run without interruption. -/
def compile (s : Schema) (cache : MappingCache) (type : Nat) (columns : List String) :
    Except BindingError Entry × MappingCache :=
  match cache.lookup type columns with
  | some entry => (.ok entry, cache)
  | none =>
      match s.mapping type columns with
      | .error e => (.error e, cache)
      | .ok paths =>
          let (entry, cache) := cache.offer type columns paths
          (.ok entry, cache)

end MappingCache

end QueryBind
