import TypedExpr.Binary64.Bits

/-! Rounding an exact fraction to the nearest double. The fraction `num / den` is scaled by a power
of two so that its integer part has 53 bits (or fewer at the bottom of the subnormal range), and the
quotient is rounded to the nearest integer with ties to the even one. -/

namespace TypedExpr.Binary64

def roundHalfEven (a b : Nat) : Nat :=
  let q := a / b
  let r := a % b
  if 2 * r > b ∨ (2 * r = b ∧ q % 2 = 1) then q + 1 else q

theorem roundHalfEven_le (a b : Nat) : a / b ≤ roundHalfEven a b := by
  simp only [roundHalfEven]
  split <;> omega

def scaled (num den : Nat) (e : Int) : Nat × Nat :=
  if e ≥ 0 then (num, den * 2 ^ e.toNat) else (num * 2 ^ (-e).toNat, den)

def normalExp (num den : Nat) : Int :=
  let e0 : Int := (num.log2 : Int) - den.log2 - 52
  let q := (scaled num den e0).1 / (scaled num den e0).2
  if q ≥ 2 ^ 53 then e0 + 1 else if q < 2 ^ 52 then e0 - 1 else e0

def nearest (neg : Bool) (num den : Nat) : Float :=
  if num = 0 then zero neg else
  let e := max (normalExp num den) minExp
  let m := roundHalfEven (scaled num den e).1 (scaled num den e).2
  let (m, e) := if m = 2 ^ 53 then (2 ^ 52, e + 1) else (m, e)
  if e > maxExp then infinity neg else pack neg m e

def ofInt (n : Int) : Float := nearest (n < 0) n.natAbs 1

def decimalLength (n : Nat) : Nat := (Nat.toDigits 10 n).length

def ofDecimal (neg : Bool) (digits : Nat) (exp10 : Int) : Float :=
  if digits = 0 then zero neg
  else if exp10 + decimalLength digits > 310 then infinity neg
  else if exp10 + decimalLength digits < -325 then zero neg
  else if exp10 ≥ 0 then nearest neg (digits * 10 ^ exp10.toNat) 1
  else nearest neg digits (10 ^ (-exp10).toNat)

def Finite.toFloat (f : Finite) : Float := nearest f.neg f.num f.den

end TypedExpr.Binary64
