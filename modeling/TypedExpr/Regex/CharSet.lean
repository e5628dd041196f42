import TypedExpr.Text.Alnum
import TypedExpr.Text.Blank
import TypedExpr.Text.Case

/-! Sets of characters for patterns, as sorted lists of disjoint, non-adjacent ranges of code points
within `0 ..= 0x10FFFF`. Union, intersection, difference, symmetric difference and complement keep
that form. -/

namespace TypedExpr.Regex

def maxCode : Nat := 0x10FFFF

/-- A set of characters: sorted, disjoint, non-adjacent ranges of code points. -/
structure CharSet where
  ranges : List (Nat × Nat)
  deriving Inhabited

namespace CharSet

def mergeSorted : List (Nat × Nat) → List (Nat × Nat)
  | [] => []
  | [r] => [r]
  | (a, b) :: (c, d) :: rest =>
    if c ≤ b + 1 then mergeSorted ((a, max b d) :: rest)
    else (a, b) :: mergeSorted ((c, d) :: rest)
termination_by rs => rs.length

def ofRanges (rs : List (Nat × Nat)) : CharSet :=
  ⟨mergeSorted (rs.mergeSort fun x y => x.1 ≤ y.1)⟩

/-- The empty set. -/
def none : CharSet := ⟨[]⟩

def all : CharSet := ⟨[(0, maxCode)]⟩

def single (c : Char) : CharSet := ⟨[(c.toNat, c.toNat)]⟩

def union (s t : CharSet) : CharSet := ofRanges (s.ranges ++ t.ranges)

def gapsFrom (next : Nat) : List (Nat × Nat) → List (Nat × Nat)
  | [] => if next ≤ maxCode then [(next, maxCode)] else []
  | (a, b) :: rest => (if next < a then [(next, a - 1)] else []) ++ gapsFrom (b + 1) rest

def complement (s : CharSet) : CharSet := ⟨gapsFrom 0 s.ranges⟩

def inter (s t : CharSet) : CharSet := (s.complement.union t.complement).complement

def diff (s t : CharSet) : CharSet := s.inter t.complement

def symmDiff (s t : CharSet) : CharSet := (s.union t).diff (s.inter t)

def memCode (s : CharSet) (n : Nat) : Bool := s.ranges.any fun (a, b) => a ≤ n && n ≤ b

/-- Whether a character is in the set. -/
def mem (s : CharSet) (c : Char) : Bool := s.memCode c.toNat

def foldPairs : List (Nat × Nat) :=
  Text.foldRuns.toList.flatMap fun (a, b, s, d) =>
    ((List.range ((b - a) / s + 1)).map fun k => a + k * s).map fun c => (c, ((c : Int) + d).toNat)

def caseFold (s : CharSet) : CharSet :=
  let targets := ofRanges ((foldPairs.filter fun (c, t) => s.memCode c || s.memCode t).map
    fun (_, t) => (t, t))
  let sources := (foldPairs.filter fun (_, t) => targets.memCode t).map fun (c, _) => (c, c)
  ofRanges (s.ranges ++ targets.ranges ++ sources)

def asciiCaseFold (s : CharSet) : CharSet :=
  let upper := ((s.inter ⟨[(0x61, 0x7A)]⟩).ranges).map fun (a, b) => (a - 32, b - 32)
  let lower := ((s.inter ⟨[(0x41, 0x5A)]⟩).ranges).map fun (a, b) => (a + 32, b + 32)
  ofRanges (s.ranges ++ upper ++ lower)

def digit : CharSet := ⟨Text.digitRanges.toList⟩

def space : CharSet :=
  ⟨[(0x09, 0x0D), (0x20, 0x20), (0x85, 0x85), (0xA0, 0xA0), (0x1680, 0x1680), (0x2000, 0x200A),
    (0x2028, 0x2029), (0x202F, 0x202F), (0x205F, 0x205F), (0x3000, 0x3000)]⟩

def word : CharSet := ⟨Text.wordRanges.toList⟩

def asciiDigit : CharSet := ⟨[(0x30, 0x39)]⟩

def asciiSpace : CharSet := ⟨[(0x09, 0x0D), (0x20, 0x20)]⟩

def asciiWord : CharSet := ⟨[(0x30, 0x39), (0x41, 0x5A), (0x5F, 0x5F), (0x61, 0x7A)]⟩

def ascii? : String → Option CharSet
  | "alnum" => some ⟨[(0x30, 0x39), (0x41, 0x5A), (0x61, 0x7A)]⟩
  | "alpha" => some ⟨[(0x41, 0x5A), (0x61, 0x7A)]⟩
  | "ascii" => some ⟨[(0x00, 0x7F)]⟩
  | "blank" => some ⟨[(0x09, 0x09), (0x20, 0x20)]⟩
  | "cntrl" => some ⟨[(0x00, 0x1F), (0x7F, 0x7F)]⟩
  | "digit" => some ⟨[(0x30, 0x39)]⟩
  | "graph" => some ⟨[(0x21, 0x7E)]⟩
  | "lower" => some ⟨[(0x61, 0x7A)]⟩
  | "print" => some ⟨[(0x20, 0x7E)]⟩
  | "punct" => some ⟨[(0x21, 0x2F), (0x3A, 0x40), (0x5B, 0x60), (0x7B, 0x7E)]⟩
  | "space" => some ⟨[(0x09, 0x0D), (0x20, 0x20)]⟩
  | "upper" => some ⟨[(0x41, 0x5A)]⟩
  | "word" => some ⟨[(0x30, 0x39), (0x41, 0x5A), (0x5F, 0x5F), (0x61, 0x7A)]⟩
  | "xdigit" => some ⟨[(0x30, 0x39), (0x41, 0x46), (0x61, 0x66)]⟩
  | _ => Option.none

end CharSet

end TypedExpr.Regex
