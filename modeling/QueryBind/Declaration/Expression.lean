/-
# QueryBind.Declaration.Expression — values of attributes

The value that is assigned in an attribute is an expression, of which only paths matter here.
`Expression.read` tells a path from any other expression and gives the tokens after it. The inside
of groups is taken as it is; an expression that a keyword starts reaches to the next comma outside
groups.
-/
import QueryBind.Declaration.Path

namespace QueryBind.Declaration

set_option autoImplicit false

inductive Expression where
  | path (tokens : List Token)
  | other
  deriving DecidableEq, Repr

namespace Expression

abbrev Reading := Except FormError (Expression × List Token)

/-- The same reading of an expression that is no path. -/
def asOther (reading : Reading) : Reading := reading.map fun (_, rest) => (.other, rest)

/-- The tokens from the first comma outside groups on; `depth` counts the open groups. -/
def fromComma : (depth : Nat) → List Token → List Token
  | _, [] => []
  | 0, .mark ',' joint :: rest => .mark ',' joint :: rest
  | depth, .opening _ :: rest => fromComma (depth + 1) rest
  | depth, .closing _ :: rest => fromComma (depth - 1) rest
  | depth, _ :: rest => fromComma depth rest

/-- The keywords that start an expression. -/
def leading : List String :=
  ["async", "break", "const", "continue", "for", "if", "let", "loop", "match", "move", "return",
    "static", "unsafe", "while", "yield", "become"]

/-- How strongly operators bind, as far as it matters: comparisons do not chain. -/
inductive Operator where
  | comparison
  /-- One that binds more strongly than a comparison. -/
  | tighter
  /-- One that separates comparisons. -/
  | looser
  | range
  deriving DecidableEq, Repr

/-- Operators by the way they are written, a longer one before its beginnings. -/
def operators : List (String × Operator) :=
  [("<<=", .looser), (">>=", .looser), ("..=", .range), ("...", .range), ("&&", .looser),
    ("||", .looser), ("==", .comparison), ("!=", .comparison), ("<=", .comparison),
    (">=", .comparison), ("+=", .looser), ("-=", .looser), ("*=", .looser), ("/=", .looser),
    ("%=", .looser), ("^=", .looser), ("&=", .looser), ("|=", .looser), ("<<", .tighter),
    (">>", .tighter), ("..", .range), ("+", .tighter), ("-", .tighter), ("*", .tighter),
    ("/", .tighter), ("%", .tighter), ("^", .tighter), ("&", .tighter), ("|", .tighter),
    ("<", .comparison), (">", .comparison), ("=", .looser)]

/-- The tokens after an operator, if they start with it. -/
def afterMarks : (written : List Char) → List Token → Option (List Token)
  | [], rest => some rest
  | [c], .mark d _ :: rest => if c = d then some rest else none
  | c :: more, .mark d true :: rest => if c = d then afterMarks more rest else none
  | _, _ => none

/-- The operator that tokens start with, and the tokens after it. An arrow is none. -/
def operator? (tokens : List Token) : Option (Operator × List Token) :=
  if (afterMarks ['=', '>'] tokens).isSome then none
  else operators.findSome? fun (written, kind) =>
    (afterMarks written.toList tokens).map fun rest => (kind, rest)

/-- The tokens after the parameters of a closure, whose first bar has been read. -/
def afterParameters : List Token → List Token
  | [] => []
  | .mark '|' _ :: rest => rest
  | _ :: rest => afterParameters rest

/-- Whether an operand may stand where tokens start, after a range. -/
def startsOperand : List Token → Bool
  | [] => false
  | .mark c _ :: _ => c != ',' && c != ';' && c != '='
  | _ => true

mutual

/-- An operand without what follows it. -/
def operandWith : (fuel : Nat) → List Token → Reading
  | 0, found => .error (.expecting .expression found)
  | _ + 1, [] => .error (.expecting .expression [])
  | fuel + 1, t :: rest =>
      match t with
      | .mark c joint =>
          if c = '-' ∨ c = '*' ∨ c = '!' then asOther (operandWith fuel rest)
          else if c = '&' then
            match rest with
            | .word name :: more =>
                if name = "mut".toList then asOther (operandWith fuel more)
                else asOther (operandWith fuel rest)
            | _ => asOther (operandWith fuel rest)
          else if c = '|' then asOther (readWith fuel (afterParameters rest))
          else if c = '.' ∧ joint then
            match operator? (t :: rest) with
            | some (.range, more) =>
                if startsOperand more then asOther (readWith fuel more) else .ok (.other, more)
            | _ => .error (.expecting .expression (t :: rest))
          else if c = '<' ∨ Path.startsSeparator (t :: rest) then pathWith fuel (t :: rest)
          else .error (.expecting .expression (t :: rest))
      | .string .. => trailersWith fuel .other rest
      | .literal _ => trailersWith fuel .other rest
      | .lifetime _ => .ok (.other, fromComma 0 rest)
      | .opening _ =>
          match Token.group? rest with
          | some (_, more) => trailersWith fuel .other more
          | none => .error (.expecting .expression (t :: rest))
      | .closing _ => .error (.expecting .expression (t :: rest))
      | .word name =>
          if name = "true".toList ∨ name = "false".toList ∨ name = "_".toList then
            trailersWith fuel .other rest
          else if leading.contains (String.ofList name) then .ok (.other, fromComma 0 rest)
          else if Token.isSegment name then pathWith fuel (t :: rest)
          else .error (.expecting .expression (t :: rest))

/-- A path, or the invocation or record literal that it starts. -/
def pathWith : (fuel : Nat) → List Token → Reading
  | 0, found => .error (.expecting .expression found)
  | fuel + 1, tokens =>
      match Path.inExpression tokens with
      | .error e => .error e
      | .ok (p, rest) =>
          match rest with
          | .mark '!' _ :: .opening _ :: inside =>
              match Token.group? inside with
              | some (_, more) => trailersWith fuel .other more
              | none => .ok (.path p, rest)
          | .opening .brace :: inside =>
              match Token.group? inside with
              | some (_, more) => trailersWith fuel .other more
              | none => .ok (.path p, rest)
          | _ => trailersWith fuel (.path p) rest

/-- Calls, indices, fields and question marks after an operand. -/
def trailersWith : (fuel : Nat) → Expression → List Token → Reading
  | 0, e, rest => .ok (e, rest)
  | fuel + 1, e, rest =>
      match rest with
      | .opening .brace :: _ => .ok (e, rest)
      | .opening _ :: more =>
          match Token.group? more with
          | some (_, after) => trailersWith fuel .other after
          | none => .ok (e, rest)
      | .mark '?' _ :: more => trailersWith fuel .other more
      | .mark '.' false :: .word _ :: more =>
          match more with
          | .mark ':' true :: .mark ':' _ :: .mark '<' _ :: arguments =>
              match Path.angles arguments with
              | .ok (_, after) => trailersWith fuel .other after
              | .error e => .error e
          | _ => trailersWith fuel .other more
      | .mark '.' false :: .literal _ :: more => trailersWith fuel .other more
      | .mark '.' false :: more => .error (.expecting .identifier more)
      | _ => .ok (e, rest)

/-- The operators and operands after an operand; `compared` says whether a comparison has been
read that the next one would chain with. -/
def operationsWith : (fuel : Nat) → (compared : Bool) → Expression → List Token → Reading
  | 0, _, e, rest => .ok (e, rest)
  | fuel + 1, compared, e, rest =>
      match rest with
      | .word name :: more =>
          if name = "as".toList then .ok (.other, fromComma 0 more) else .ok (e, rest)
      | _ =>
          match operator? rest with
          | none => .ok (e, rest)
          | some (kind, more) =>
              if kind = .comparison ∧ compared then .error .comparisonsChained
              else if kind = .range ∧ !startsOperand more then .ok (.other, more)
              else
                match operandWith fuel more with
                | .error e => .error e
                | .ok (_, after) =>
                    let compared := kind = .comparison ∨ (kind = .tighter ∧ compared)
                    operationsWith fuel compared .other after

/-- An operand with all that follows it. -/
def readWith : (fuel : Nat) → List Token → Reading
  | 0, found => .error (.expecting .expression found)
  | fuel + 1, tokens =>
      match operandWith fuel tokens with
      | .error e => .error e
      | .ok (e, rest) => operationsWith fuel false e rest

end

/-- The expression that tokens start with. Every call of one reader by another takes one unit of
fuel, and no token is read by more than four of them. -/
def read (tokens : List Token) : Reading := readWith (4 * tokens.length + 4) tokens

end Expression

end QueryBind.Declaration
