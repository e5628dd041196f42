/-! Why a pattern is not a regular expression, and the diagnostic text that shows it. A position in
a pattern carries its character index, its line and its column (both counted from one, columns in
characters). -/

namespace TypedExpr.Regex

/-- A position in a pattern. -/
structure Pos where
  /-- Characters before the position. -/
  idx : Nat
  /-- Line, from one. -/
  line : Nat
  /-- Column, from one, in characters. -/
  col : Nat
  deriving DecidableEq, Repr, Inhabited

def Pos.origin : Pos := ⟨0, 1, 1⟩

/-- A stretch of a pattern between two positions. -/
structure Span where
  start : Pos
  stop : Pos
  deriving DecidableEq, Repr, Inhabited

def Span.at (p : Pos) : Span := ⟨p, p⟩

/-- What is wrong with a pattern. -/
inductive ErrorKind where
  | classEscapeInvalid
  | classRangeInvalid
  | classRangeLiteral
  | classUnclosed
  | decimalEmpty
  | decimalInvalid
  | escapeHexEmpty
  | escapeHexInvalid
  | escapeHexInvalidDigit
  | escapeUnexpectedEof
  | escapeUnrecognized
  | flagDanglingNegation
  | flagDuplicate
  | flagRepeatedNegation
  | flagUnexpectedEof
  | flagUnrecognized
  | groupNameDuplicate
  | groupNameEmpty
  | groupNameInvalid
  | groupNameUnexpectedEof
  | groupUnclosed
  | groupUnopened
  | nestLimitExceeded (limit : Nat)
  | repetitionCountInvalid
  | repetitionCountDecimalEmpty
  | repetitionCountUnclosed
  | repetitionMissing
  | specialWordBoundaryUnclosed
  | specialWordBoundaryUnrecognized
  | specialWordOrRepetitionUnexpectedEof
  | unicodeClassInvalid
  | unsupportedBackreference
  | unsupportedLookAround
  | unicodePropertyNotFound
  | unicodePropertyValueNotFound
  | unicodeNotAllowed
  | invalidUtf8
  deriving DecidableEq, Repr

def ErrorKind.message : ErrorKind → String
  | .classEscapeInvalid => "invalid escape sequence found in character class"
  | .classRangeInvalid => "invalid character class range, the start must be <= the end"
  | .classRangeLiteral => "invalid range boundary, must be a literal"
  | .classUnclosed => "unclosed character class"
  | .decimalEmpty => "decimal literal empty"
  | .decimalInvalid => "decimal literal invalid"
  | .escapeHexEmpty => "hexadecimal literal empty"
  | .escapeHexInvalid => "hexadecimal literal is not a Unicode scalar value"
  | .escapeHexInvalidDigit => "invalid hexadecimal digit"
  | .escapeUnexpectedEof => "incomplete escape sequence, reached end of pattern prematurely"
  | .escapeUnrecognized => "unrecognized escape sequence"
  | .flagDanglingNegation => "dangling flag negation operator"
  | .flagDuplicate => "duplicate flag"
  | .flagRepeatedNegation => "flag negation operator repeated"
  | .flagUnexpectedEof => "expected flag but got end of regex"
  | .flagUnrecognized => "unrecognized flag"
  | .groupNameDuplicate => "duplicate capture group name"
  | .groupNameEmpty => "empty capture group name"
  | .groupNameInvalid => "invalid capture group character"
  | .groupNameUnexpectedEof => "unclosed capture group name"
  | .groupUnclosed => "unclosed group"
  | .groupUnopened => "unopened group"
  | .nestLimitExceeded n => s!"exceed the maximum number of nested parentheses/brackets ({n})"
  | .repetitionCountInvalid => "invalid repetition count range, the start must be <= the end"
  | .repetitionCountDecimalEmpty => "repetition quantifier expects a valid decimal"
  | .repetitionCountUnclosed => "unclosed counted repetition"
  | .repetitionMissing => "repetition operator missing expression"
  | .specialWordBoundaryUnclosed =>
    "special word boundary assertion is either unclosed or contains an invalid character"
  | .specialWordBoundaryUnrecognized =>
    "unrecognized special word boundary assertion, valid choices are: start, end, start-half or end-half"
  | .specialWordOrRepetitionUnexpectedEof =>
    "found either the beginning of a special word boundary or a bounded repetition on a \\b with an opening brace, but no closing brace"
  | .unicodeClassInvalid => "invalid Unicode character class"
  | .unsupportedBackreference => "backreferences are not supported"
  | .unsupportedLookAround => "look-around, including look-ahead and look-behind, is not supported"
  | .unicodePropertyNotFound => "Unicode property not found"
  | .unicodePropertyValueNotFound => "Unicode property value not found"
  | .unicodeNotAllowed => "Unicode not allowed here"
  | .invalidUtf8 => "pattern can match invalid UTF-8"

/-- A problem with a pattern, where it is, and where an earlier part that it conflicts with is. -/
structure Error where
  kind : ErrorKind
  span : Span
  aux : Option Span := none
  deriving Repr

def patternLines (pattern : String) : List String :=
  let parts := pattern.splitOn "\n"
  let parts := if pattern.endsWith "\n" then parts.dropLast else parts
  let parts := if pattern.isEmpty then [] else parts
  parts.map fun l => if l.endsWith "\r" then String.ofList (l.toList.dropLast) else l

def repeatChar (c : Char) (n : Nat) : String := String.ofList (List.replicate n c)

def caretsFrom (pos : Nat) : List Span → String
  | [] => ""
  | s :: rest =>
    let gap := s.start.col - 1 - pos
    let width := max 1 (s.stop.col - s.start.col)
    repeatChar ' ' gap ++ repeatChar '^' width ++ caretsFrom (max pos (s.start.col - 1) + width) rest

def sortSpans (spans : List Span) : List Span :=
  spans.mergeSort fun a b => a.start.idx < b.start.idx ∨ (a.start.idx = b.start.idx ∧ a.stop.idx ≤ b.stop.idx)

/-- The diagnostic text of an error in a pattern. -/
def Error.render (pattern : String) (e : Error) : String :=
  let lines := patternLines pattern
  let count := lines.length + (if pattern.endsWith "\n" then 1 else 0)
  let width := if count ≤ 1 then 0 else (toString count).length
  let spans := e.span :: e.aux.toList
  let oneLine := sortSpans (spans.filter fun s => s.start.line = s.stop.line)
  let manyLines := sortSpans (spans.filter fun s => s.start.line ≠ s.stop.line)
  let numbered (i : Nat) : String :=
    if width = 0 then "    " else
      let n := toString (i + 1)
      repeatChar ' ' (width - n.length) ++ n ++ ": "
  let pad := if width = 0 then 4 else 2 + width
  let notated := String.join (lines.zipIdx.map fun (line, i) =>
    let here := oneLine.filter fun s => s.start.line = i + 1
    numbered i ++ line ++ "\n" ++
      (if here.isEmpty then "" else repeatChar ' ' pad ++ caretsFrom 0 here ++ "\n"))
  let msg := "error: " ++ e.kind.message
  if pattern.contains '\n' then
    let rule := repeatChar '~' 79
    let notes := manyLines.map fun s =>
      s!"on line {s.start.line} (column {s.start.col}) through line {s.stop.line} (column {s.stop.col - 1})"
    "regex parse error:\n" ++ rule ++ "\n" ++ notated ++ rule ++ "\n" ++
      (if notes.isEmpty then "" else "\n".intercalate notes ++ "\n") ++ msg
  else "regex parse error:\n" ++ notated ++ msg

end TypedExpr.Regex
