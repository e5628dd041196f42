/-! Packed tables of code point ranges. A table is text: tokens separated by blanks, each `g` or
`g+w` in lowercase hexadecimal. -/

namespace TypedExpr.Text

/-- The state of reading a packed table: the first code point free after the last range, the gap and
width read so far, whether a token is open, and the ranges read. -/
structure Unpacking where
  next : Nat := 0
  gap : Nat := 0
  width : Option Nat := none
  pending : Bool := false
  ranges : Array (Nat × Nat) := #[]

namespace Unpacking

def hexValue (c : Char) : Nat :=
  if c.isDigit then c.toNat - '0'.toNat else c.toNat - 'a'.toNat + 10

def close (u : Unpacking) : Unpacking :=
  if u.pending then
    let first := u.next + u.gap
    let last := first + u.width.getD 0
    { next := last + 1, ranges := u.ranges.push (first, last) }
  else u

/-- Reads one character of a packed table. -/
def step (u : Unpacking) (c : Char) : Unpacking :=
  if c = '+' then { u with width := some 0 }
  else if c.isDigit ∨ ('a' ≤ c ∧ c ≤ 'f') then
    match u.width with
    | some w => { u with width := some (16 * w + hexValue c), pending := true }
    | none => { u with gap := 16 * u.gap + hexValue c, pending := true }
  else u.close

end Unpacking

def unpackRanges (s : String) : Array (Nat × Nat) :=
  (s.toList.foldl Unpacking.step {}).close.ranges

end TypedExpr.Text
