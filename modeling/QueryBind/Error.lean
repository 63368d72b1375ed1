/-
# QueryBind.Error — what can go wrong, and how it is told

An `Error` is a cause, possibly wrapped in the operation or the relationship it happened in.
`Error.message` is the wording of each cause; `Error.inOperation` adds at most one operation
name and leaves a missing row bare, so that a caller can match on it; the three classifiers
look through the wrapping that does not change what the caller should do.
-/
import QueryBind.Value.Scalar

namespace QueryBind

set_option autoImplicit false

/-- A failure of the database connection. -/
inductive ConnectionError where
  | invalidConfiguration
  | statementFailed
  | wrongArgumentCount (expected got : Nat)
  /-- The argument, counted from 0, has no encoding as its parameter's type. -/
  | unencodable (index : Nat)
  deriving DecidableEq, Repr

/-- What was looked for and not found. -/
inductive MissingRow where
  | noRowToBind (type : String)
  | noRow
  | other (message : String)
  deriving DecidableEq, Repr

/-- Why a column could not be stored into its field. -/
inductive DecodeError where
  | noSuchColumn
  | conversion (cause : ConversionError)
  /-- The column, counted from 0, is not readable from its binary form. -/
  | unreadable (index : Nat)
  | other (message : String)
  deriving DecidableEq, Repr

/-- Why columns and fields do not fit together. -/
inductive BindingError where
  | emptyPath
  | pathTooDeep (depth : Nat)
  | indexTooLarge (index : Nat)
  | unknownColumn (column type : String)
  | widthMismatch (fields columns : Nat)
  | unreachableField (indices : List Nat)
  | other (message : String)
  deriving DecidableEq, Repr

/-- Why a relationship could not be loaded. -/
inductive ConfigError where
  | noRelationships (path type : String)
  | unregistered (path name type : String)
  | other (message : String)
  deriving DecidableEq, Repr

inductive Error where
  | connection (cause : ConnectionError)
  | notFound (what : MissingRow)
  | tooManyRows (expected got : Nat)
  | decode (column : String) (cause : DecodeError)
  | binding (cause : BindingError)
  | config (cause : ConfigError)
  /-- A failure of the named operation. -/
  | operation (name : String) (source : Error)
  /-- A failure of the loader of the named relationship. -/
  | eagerLoad (relationship : String) (source : Error)
  | timeout (after : Duration)
  | other (message : String)
  deriving DecidableEq, Repr

/-- The decimal numeral of a count. -/
def Text.count (n : Nat) : String := String.ofList (natural n)

open Text

namespace ConnectionError

def message : ConnectionError → String
  | .invalidConfiguration => "invalid connection string"
  | .statementFailed => "db error"
  | .wrongArgumentCount expected got =>
      "expected " ++ count expected ++ " parameters but got " ++ count got
  | .unencodable index => "error serializing parameter " ++ count index

end ConnectionError

namespace MissingRow

def message : MissingRow → String
  | .noRowToBind type => "bind failed to find any " ++ type ++ " rows"
  | .noRow => "Expected one row, got none"
  | .other message => message

end MissingRow

namespace DecodeError

def message : DecodeError → String
  | .noSuchColumn => "no such column"
  | .conversion cause => cause.message
  | .unreadable index => "error deserializing column " ++ count index
  | .other message => message

end DecodeError

namespace BindingError

def message : BindingError → String
  | .emptyPath => "field path must not be empty"
  | .pathTooDeep depth => "field nesting depth " ++ count depth ++ " exceeds the maximum of 7"
  | .indexTooLarge index =>
      "field index " ++ count index ++ " is out of range (must be below 255)"
  | .unknownColumn column type =>
      "could not find struct field name in mapping: " ++ column ++ " (type " ++ type ++ ")"
  | .widthMismatch fields columns =>
      "mapping has " ++ count fields ++ " fields but row has " ++ count columns ++ " columns"
  | .unreachableField indices =>
      "struct does not expose the field at path [" ++ ", ".intercalate (indices.map count) ++ "]"
  | .other message => message

end BindingError

namespace ConfigError

def message : ConfigError → String
  | .noRelationships path type =>
      "failed to eager load " ++ path ++ ": " ++ type ++ " has no relationships"
  | .unregistered path name type =>
      "failed to eager load " ++ path ++ ": no loader registered for " ++ name ++ " on " ++ type
  | .other message => message

end ConfigError

namespace Error

def message : Error → String
  | .connection cause => "Query error: " ++ cause.message
  | .notFound what => "Not found: " ++ what.message
  | .tooManyRows expected got =>
      "Too many rows: expected " ++ count expected ++ ", got " ++ count got
  | .decode column cause => "Decode error on column '" ++ column ++ "': " ++ cause.message
  | .binding cause => "Binding error: " ++ cause.message
  | .config cause => "Configuration error: " ++ cause.message
  | .operation name source => name ++ ": " ++ source.message
  | .eagerLoad relationship source =>
      "failed to eager load " ++ relationship ++ ": " ++ source.message
  | .timeout after => "Query timeout after " ++ String.ofList after.text
  | .other message => message

/-- The error as a failure of an operation. A missing row stays bare, and the name of the
operation that failed first is kept. -/
def inOperation (name : String) : Error → Error
  | .notFound what => .notFound what
  | .operation inner source => .operation inner source
  | error => .operation name error

/-- The error as a failure of a relationship's loader. -/
def inRelationship (relationship : String) (error : Error) : Error := .eagerLoad relationship error

def isNotFound : Error → Bool
  | .notFound _ => true
  | .operation _ source => source.isNotFound
  | _ => false

def isTimeout : Error → Bool
  | .timeout _ => true
  | .operation _ source => source.isTimeout
  | _ => false

/-- An error that no retry can cure. -/
def isConfiguration : Error → Bool
  | .binding _ => true
  | .config _ => true
  | .operation _ source => source.isConfiguration
  | .eagerLoad _ source => source.isConfiguration
  | _ => false

end Error

end QueryBind
