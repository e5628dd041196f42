/-! Errors of reading an expression. Every error names a byte offset into the source. -/

namespace TypedExpr

/-- Why an expression could not be read. -/
inductive ParseError where
  /-- A token that cannot stand here. -/
  | unexpectedToken (token : String) (pos : Nat)
  /-- The input ended where more was needed. -/
  | unexpectedEnd (pos : Nat)
  /-- A particular token or kind of token was needed. -/
  | expectedToken (expected found : String) (pos : Nat)
  /-- A literal out of range. -/
  | invalidLiteral (kind value : String) (pos : Nat)
  /-- A backslash sequence in a string literal that means nothing. -/
  | invalidEscape (seq : String) (pos : Nat)
  /-- A string literal without its closing quote. -/
  | unclosedString (pos : Nat)
  /-- A character that starts no token. -/
  | unexpectedChar (c : Char) (pos : Nat)
  /-- Nesting beyond the limit. -/
  | tooDeep (limit pos : Nat)
  deriving DecidableEq, Repr

namespace ParseError

/-- The byte offset the error refers to. -/
def position : ParseError → Nat
  | .unexpectedToken _ p => p
  | .unexpectedEnd p => p
  | .expectedToken _ _ p => p
  | .invalidLiteral _ _ p => p
  | .invalidEscape _ p => p
  | .unclosedString p => p
  | .unexpectedChar _ p => p
  | .tooDeep _ p => p

/-- Name of the kind of error. -/
def kindName : ParseError → String
  | .unexpectedToken .. => "UnexpectedToken"
  | .unexpectedEnd .. => "UnexpectedEof"
  | .expectedToken .. => "ExpectedToken"
  | .invalidLiteral .. => "InvalidLiteral"
  | .invalidEscape .. => "InvalidEscape"
  | .unclosedString .. => "UnclosedString"
  | .unexpectedChar .. => "UnexpectedCharacter"
  | .tooDeep .. => "NestingTooDeep"

def message : ParseError → String
  | .unexpectedToken t p => s!"Unexpected token '{t}' at position {p}"
  | .unexpectedEnd p => s!"Unexpected end of input at position {p}"
  | .expectedToken e f p => s!"Expected {e} at position {p}, found '{f}'"
  | .invalidLiteral k v p => s!"Invalid {k} literal at position {p}: {v}"
  | .invalidEscape s p => s!"Invalid escape sequence at position {p}: {s}"
  | .unclosedString p => s!"Unclosed string literal starting at position {p}"
  | .unexpectedChar c p => s!"Unexpected character '{c}' at position {p}"
  | .tooDeep m p => s!"Expression nesting exceeds {m} levels at position {p}"

end ParseError

end TypedExpr
