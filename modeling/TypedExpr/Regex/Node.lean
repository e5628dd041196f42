import TypedExpr.Regex.CharSet

/-! The meaning of a pattern once its flags are applied: sets of characters, zero-width assertions,
repetition, concatenation and alternation. Alternatives are tried in order and a greedy repetition
prefers one more round, so a tree also fixes which of several matches is preferred. -/

namespace TypedExpr.Regex

/-- Zero-width assertions about the characters around a position. -/
inductive Look where
  /-- The start of the text. -/
  | start
  /-- The end of the text. -/
  | finish
  /-- The start of a line: the start of the text or after a line feed. -/
  | startLine
  /-- The end of a line: the end of the text or before a line feed. -/
  | finishLine
  /-- The start of a line, where a line ends with a line feed, a carriage return, or both. -/
  | startLineCrlf
  /-- The end of a line, where a line ends with a line feed, a carriage return, or both. -/
  | finishLineCrlf
  /-- A word character on exactly one side. -/
  | wordBoundary (ascii : Bool)
  /-- Word characters on both sides or on neither. -/
  | notWordBoundary (ascii : Bool)
  /-- No word character before and one after. -/
  | wordStart (ascii : Bool)
  /-- A word character before and none after. -/
  | wordEnd (ascii : Bool)
  /-- No word character before. -/
  | wordStartHalf (ascii : Bool)
  /-- No word character after. -/
  | wordEndHalf (ascii : Bool)
  deriving DecidableEq, Repr

/-- A pattern with its flags applied. -/
inductive Node where
  /-- Matches the empty text. -/
  | empty
  /-- One character of the set. -/
  | chars (s : CharSet)
  /-- A zero-width assertion. -/
  | look (l : Look)
  /-- At least `min` and at most `max` rounds of `body`; a greedy one prefers more rounds. -/
  | repetition (min : Nat) (max : Option Nat) (greedy : Bool) (body : Node)
  /-- The parts one after another. -/
  | cat (parts : List Node)
  /-- The first alternative that leads to a match. -/
  | alt (alts : List Node)
  deriving Inhabited

end TypedExpr.Regex
