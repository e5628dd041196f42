/-! Decimal numbers with a 96-bit mantissa: `±mant / 10^scale` with `mant < 2^96` and at most 28
digits after the point. The scale is part of the number: `1.50` and `1.5` have the same value but
different text. -/

namespace TypedExpr

/-- A decimal `±mant / 10^scale`. -/
structure Decimal where
  neg : Bool
  mant : Nat
  scale : Nat
  mant_lt : mant < 2 ^ 96
  scale_le : scale ≤ 28

namespace Decimal

def maxScale : Nat := 28

def make? (neg : Bool) (mant scale : Nat) : Option Decimal :=
  if h : mant < 2 ^ 96 ∧ scale ≤ 28 then some ⟨neg && mant != 0, mant, scale, h.1, h.2⟩
  else none

def zero : Decimal := ⟨false, 0, 0, by decide, by decide⟩

def ofInt64 (n : Int64) : Decimal :=
  ⟨n.toInt < 0, n.toInt.natAbs, 0, by have := n.toInt_lt; have := n.le_toInt; omega, by decide⟩

def signed (d : Decimal) : Int := if d.neg then -(d.mant : Int) else d.mant

def isZero (d : Decimal) : Bool := d.mant == 0

def cmp (a b : Decimal) : Ordering :=
  Ord.compare (a.signed * 10 ^ b.scale) (b.signed * 10 ^ a.scale)

def eqv (a b : Decimal) : Bool := a.cmp b == .eq

def negate (d : Decimal) : Decimal := ⟨!d.neg, d.mant, d.scale, d.mant_lt, d.scale_le⟩

/-- Text with all `scale` digits after the point, a leading `0` before a bare point, and `-` for a
negative value: `1.50`, `-0.75`, `0.0000`, `7`. -/
def render (d : Decimal) : String :=
  let ds := Nat.toDigits 10 d.mant
  let ds := List.replicate (d.scale + 1 - ds.length) '0' ++ ds
  let whole := ds.length - d.scale
  let body := if d.scale = 0 then ds else ds.take whole ++ '.' :: ds.drop whole
  (if d.neg then "-" else "") ++ String.ofList body

end Decimal

end TypedExpr
