/-! Tokens of the expression language. Literal tokens carry their source text (or, for integers, the
magnitude below `2^64`); operators that have a word form (`and`, `eq`, ...) are the same token as
their symbol. -/

namespace TypedExpr

/-- A token. -/
inductive Token where
  | integer (n : Nat)
  | decimal (text : String)
  | str (raw : String)
  | trueWord
  | falseWord
  | nullWord
  | ident (name : String)
  | var (name : String)
  | plus
  | minus
  | star
  | slash
  | percent
  | equal
  | notEqual
  | less
  | lessEq
  | greater
  | greaterEq
  | and
  | or
  | not
  | inWord
  | question
  | colon
  | dot
  | comma
  | lparen
  | rparen
  | lbracket
  | rbracket
  | lbrace
  | rbrace
  | hashBrace
  deriving DecidableEq, Repr, Inhabited

/-- A value with the byte range `[start, stop)` it came from. -/
structure Spanned (α : Type) where
  value : α
  start : Nat
  stop : Nat
  deriving Repr

namespace Token

def keywords : List (String × Token) :=
  [("true", .trueWord), ("false", .falseWord), ("null", .nullWord),
   ("and", .and), ("or", .or), ("not", .not), ("in", .inWord),
   ("eq", .equal), ("neq", .notEqual), ("lt", .less), ("lte", .lessEq),
   ("gt", .greater), ("gte", .greaterEq)]

def keyword? (s : String) : Option Token :=
  (keywords.find? (·.1 == s)).map (·.2)

def keywordText? (t : Token) : Option String :=
  (keywords.find? (·.2 == t)).map (·.1)

/-- Text of a token as it appears in messages: literals as written (strings in single quotes),
variables with `#`, operators by their symbol. -/
def render : Token → String
  | .integer n => toString n
  | .decimal s => s
  | .ident s => s
  | .str s => "'" ++ s ++ "'"
  | .var s => "#" ++ s
  | .trueWord => "true"
  | .falseWord => "false"
  | .nullWord => "null"
  | .plus => "+"
  | .minus => "-"
  | .star => "*"
  | .slash => "/"
  | .percent => "%"
  | .equal => "=="
  | .notEqual => "!="
  | .less => "<"
  | .lessEq => "<="
  | .greater => ">"
  | .greaterEq => ">="
  | .and => "&&"
  | .or => "||"
  | .not => "!"
  | .inWord => "in"
  | .question => "?"
  | .colon => ":"
  | .dot => "."
  | .comma => ","
  | .lparen => "("
  | .rparen => ")"
  | .lbracket => "["
  | .rbracket => "]"
  | .lbrace => "\x7b"
  | .rbrace => "\x7d"
  | .hashBrace => "#\x7b"

/-- Name of the kind of a token. -/
def kindName : Token → String
  | .integer _ => "Integer"
  | .decimal _ => "Decimal"
  | .str _ => "String"
  | .trueWord => "True"
  | .falseWord => "False"
  | .nullWord => "Null"
  | .ident _ => "Identifier"
  | .var _ => "Variable"
  | .plus => "Plus"
  | .minus => "Minus"
  | .star => "Star"
  | .slash => "Slash"
  | .percent => "Percent"
  | .equal => "Equal"
  | .notEqual => "NotEqual"
  | .less => "LessThan"
  | .lessEq => "LessThanOrEqual"
  | .greater => "GreaterThan"
  | .greaterEq => "GreaterThanOrEqual"
  | .and => "And"
  | .or => "Or"
  | .not => "Not"
  | .inWord => "In"
  | .question => "Question"
  | .colon => "Colon"
  | .dot => "Dot"
  | .comma => "Comma"
  | .lparen => "LeftParen"
  | .rparen => "RightParen"
  | .lbracket => "LeftBracket"
  | .rbracket => "RightBracket"
  | .lbrace => "LeftBrace"
  | .rbrace => "RightBrace"
  | .hashBrace => "HashBrace"

def text? : Token → Option String
  | .integer n => some (toString n)
  | .decimal s => some s
  | .str s => some s
  | .ident s => some s
  | .var s => some s
  | _ => none

end Token

end TypedExpr
