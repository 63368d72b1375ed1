/-
# QueryBind.Postgres.DataType — the types of PostgreSQL parameters and columns

Some system types have a binary form that this library reads and writes (`Builtin`); the others
are known by name. A type that a database has added has a schema. A type counts as built in only
by what it is: an added type that is named `text` is not the system's `text`.
-/

namespace QueryBind.Postgres

set_option autoImplicit false

/-- The system types whose binary form is known. -/
inductive Builtin where
  | bool | int2 | int4 | int8 | oid | float4 | float8 | text | varchar | bpchar | name | unknown
  | bytea | json | jsonb | date | timestamp | timestamptz | uuid
  deriving DecidableEq, Repr

namespace Builtin

def all : List Builtin :=
  [.bool, .int2, .int4, .int8, .oid, .float4, .float8, .text, .varchar, .bpchar, .name, .unknown,
    .bytea, .json, .jsonb, .date, .timestamp, .timestamptz, .uuid]

def typeName : Builtin → String
  | .bool => "bool"
  | .int2 => "int2"
  | .int4 => "int4"
  | .int8 => "int8"
  | .oid => "oid"
  | .float4 => "float4"
  | .float8 => "float8"
  | .text => "text"
  | .varchar => "varchar"
  | .bpchar => "bpchar"
  | .name => "name"
  | .unknown => "unknown"
  | .bytea => "bytea"
  | .json => "json"
  | .jsonb => "jsonb"
  | .date => "date"
  | .timestamp => "timestamp"
  | .timestamptz => "timestamptz"
  | .uuid => "uuid"

/-- A system type whose binary form is the text itself. -/
def isCharacters : Builtin → Bool
  | .text | .varchar | .bpchar | .name | .unknown => true
  | _ => false

end Builtin

inductive DataType where
  | builtin (type : Builtin)
  /-- A system type without a known binary form. -/
  | system (name : String)
  | enumeration (schema name : String) (labels : List String)
  /-- A base type that an extension brings. -/
  | extension (schema name : String)
  | domain (schema name : String) (base : DataType)
  | array (schema name : String) (element : DataType)

namespace DataType

/-- The system type of that name. -/
def ofName (name : String) : DataType :=
  match Builtin.all.find? fun b => b.typeName == name with
  | some b => .builtin b
  | none => .system name

def typeName : DataType → String
  | .builtin type => type.typeName
  | .system name => name
  | .enumeration _ name _ => name
  | .extension _ name => name
  | .domain _ name _ => name
  | .array _ name _ => name

def schema : DataType → String
  | .builtin _ => "pg_catalog"
  | .system _ => "pg_catalog"
  | .enumeration schema _ _ => schema
  | .extension schema _ => schema
  | .domain schema _ _ => schema
  | .array schema _ _ => schema

/-- The name, after its schema when that is not one that every statement searches. -/
def qualifiedName (t : DataType) : String :=
  if t.schema = "public" ∨ t.schema = "pg_catalog" then t.typeName
  else t.schema ++ "." ++ t.typeName

def isEnumeration : DataType → Bool
  | .enumeration .. => true
  | _ => false

/-- How a type holds a text. -/
inductive TextForm where
  /-- The bytes of the text. -/
  | plain
  /-- The bytes of the text after a version byte. -/
  | versioned
  deriving DecidableEq, Repr

/-- The form of a text under a type that is no enumeration, if the type holds texts. The four
text types of extensions are known by their names, whichever schema they were installed in. -/
def textForm? : DataType → Option TextForm
  | .builtin type => if type.isCharacters then some .plain else none
  | t =>
      if t.typeName = "citext" then some .plain
      else if t.typeName = "ltree" ∨ t.typeName = "lquery" ∨ t.typeName = "ltxtquery" then
        some .versioned
      else none

/-- The byte in front of a versioned binary form. -/
def versionByte : UInt8 := 1

end DataType

end QueryBind.Postgres
