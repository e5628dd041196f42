import TypedExpr.Binary64.Nearest

/-! Exact operations on doubles that the hardware does not supply: the truncating remainder, the
integer part, the ceiling, and rounding half away from zero. Each works on the exact value `sig *
2^exp`, and each exact result is a double again, so the final `nearest` does not round. -/

namespace TypedExpr.Binary64

def Finite.trunc (f : Finite) : Int :=
  let q := f.num / f.den
  if f.neg then -(q : Int) else q

def trunc? (x : Float) : Option Int :=
  match classify x with
  | .finite f => some f.trunc
  | _ => none

def roundAway (x : Float) : Float :=
  match classify x with
  | .finite f =>
    let q := f.num / f.den
    let r := f.num % f.den
    let n := if 2 * r ≥ f.den then q + 1 else q
    if n = 0 then zero f.neg else nearest f.neg n 1
  | _ => x

def rem (x y : Float) : Float :=
  match classify x, classify y with
  | .nan, _ => nan
  | _, .nan => nan
  | .inf _, _ => nan
  | .finite _, .inf _ => x
  | .finite a, .finite b =>
    if b.sig = 0 then nan
    else if a.sig = 0 then x
    else
      -- both values over the common denominator `2^-e`, `e` the smaller exponent
      let e := min a.exp b.exp
      let na := a.sig * 2 ^ (a.exp - e).toNat
      let nb := b.sig * 2 ^ (b.exp - e).toNat
      let r := na % nb
      if r = 0 then zero a.neg
      else if e ≥ 0 then nearest a.neg (r * 2 ^ e.toNat) 1
      else nearest a.neg r (2 ^ (-e).toNat)

def ceilNat (x : Float) : Nat :=
  match classify x with
  | .finite f => if f.neg then 0 else min ((f.num + f.den - 1) / f.den) (2 ^ 64 - 1)
  | .inf neg => if neg then 0 else 2 ^ 64 - 1
  | .nan => 0

end TypedExpr.Binary64
