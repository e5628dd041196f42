import TypedExpr.Decimal.Basic
import TypedExpr.Binary64.Arith

/-! Arithmetic on decimals. Sums, differences, products and remainders are computed exactly and then
fitted into 96 bits and 28 digits after the point by dropping the fewest digits, rounding half to
even; when even the units do not fit the result overflows (`none`). -/

namespace TypedExpr.Decimal

def roundPow10 (m k : Nat) : Nat := Binary64.roundHalfEven m (10 ^ k)

def fitShift (m : Nat) (k : Nat) : Nat → Nat
  | 0 => k
  | fuel + 1 => if roundPow10 m k < 2 ^ 96 then k else fitShift m (k + 1) fuel

def fit (neg : Bool) (m scale : Nat) : Option Decimal :=
  let k := fitShift m (scale - maxScale) ((Nat.toDigits 10 m).length + 1)
  if k ≤ scale then make? neg (roundPow10 m k) (scale - k) else none

def addExact (a b : Decimal) : Option Decimal :=
  let s := max a.scale b.scale
  let v := a.signed * 10 ^ (s - a.scale) + b.signed * 10 ^ (s - b.scale)
  fit (v < 0) v.natAbs s

/-- The sum; a zero operand gives the other one unchanged. -/
def add (a b : Decimal) : Option Decimal :=
  if a.mant = 0 then some b
  else if b.mant = 0 then some a
  else addExact a b

def sub (a b : Decimal) : Option Decimal :=
  if a.mant = 0 then some (if b.mant = 0 then b else b.negate)
  else if b.mant = 0 then some a
  else addExact a b.negate

def mul (a b : Decimal) : Option Decimal :=
  if a.mant = 0 ∨ b.mant = 0 then some zero
  else
    let s := a.scale + b.scale
    let neg := a.neg != b.neg
    if a.mant < 2 ^ 32 ∧ b.mant < 2 ^ 32 ∧ s > 47 then some zero
    else (fit neg (a.mant * b.mant) s).map fun d => if neg && d.mant == 0 then d.negate else d

def searchScale (q : Nat) (scale : Int) : Int :=
  let cap : Nat := min 9 (28 - scale).toNat
  let p : Nat := ((List.range (cap + 1)).filter fun p => q * 10 ^ p < 2 ^ 96).foldl max 0
  if p < 9 ∧ (p : Int) + scale < 0 then -1 else p

def dropDigit (q : Nat) (scale : Int) (sticky : Bool) : Option (Nat × Int) :=
  if scale - 1 < 0 then none
  else
    let d := q % 10
    let q' := q / 10
    some (if d > 5 ∨ (d = 5 ∧ (sticky ∨ q' % 2 = 1)) then q' + 1 else q', scale - 1)

def divSteps (d : Nat) : Nat → Nat → Nat → Int → Bool → Option (Nat × Int × Bool)
  | 0, _, _, _, _ => none
  | fuel + 1, q, r, scale, scaled =>
    let step (p : Nat) (scaled : Bool) : Option (Nat × Int × Bool) :=
      let q1 := q * 10 ^ p
      if q1 ≥ 2 ^ 96 then none
      else
        let num := r * 10 ^ p
        let q2 := q1 + num / d
        let r2 := num % d
        if q2 ≥ 2 ^ 96 then (dropDigit q2 (scale + p) (r2 != 0)).map fun (q, s) => (q, s, scaled)
        else divSteps d fuel q2 r2 (scale + p) scaled
    if r = 0 then
      if scale ≥ 0 then some (q, scale, scaled)
      else step (min 9 (-scale).toNat) scaled
    else
      let p := searchScale q scale
      if scale = 28 ∨ p = 0 then
        let q' := if 2 * r > d ∨ (2 * r = d ∧ q % 2 = 1) then q + 1 else q
        if q' < 2 ^ 96 then some (q', scale, true)
        else (dropDigit q' scale true).map fun (q, s) => (q, s, true)
      else if p < 0 then none
      else step p.toNat true

def stripEights (q scale : Nat) : Nat × Nat :=
  if h : q % 2 ^ 32 = 0 ∧ 8 ≤ scale ∧ q % 10 ^ 8 = 0 then stripEights (q / 10 ^ 8) (scale - 8)
  else (q, scale)
termination_by scale
decreasing_by omega

def stripOnce (k mask : Nat) (q scale : Nat) : Nat × Nat :=
  if q % mask = 0 ∧ k ≤ scale ∧ q % 10 ^ k = 0 then (q / 10 ^ k, scale - k) else (q, scale)

def unscale (q scale : Nat) : Nat × Nat :=
  let (q, scale) := stripEights q scale
  let (q, scale) := stripOnce 4 16 q scale
  let (q, scale) := stripOnce 2 4 q scale
  stripOnce 1 2 q scale

def div (a b : Decimal) : Option Decimal :=
  if b.mant = 0 then none
  else if a.mant = 0 then some zero
  else
    let scale : Int := (a.scale : Int) - b.scale
    match divSteps b.mant 64 (a.mant / b.mant) (a.mant % b.mant) scale false with
    | none => none
    | some (q, s, scaled) =>
      let (q, s) := if scaled then unscale q s.toNat else (q, s.toNat)
      make? (a.neg != b.neg) q s

def rem (a b : Decimal) : Option Decimal :=
  if b.mant = 0 then none
  else if a.mant = 0 then some zero
  else
    let s := max a.scale b.scale
    let x := a.mant * 10 ^ (s - a.scale)
    let y := b.mant * 10 ^ (s - b.scale)
    if x = y then some zero
    else if x < y then some a
    else fit a.neg (x % y) s

def trunc (d : Decimal) : Int :=
  let q := d.mant / 10 ^ d.scale
  if d.neg then -(q : Int) else q

def toFloat (d : Decimal) : Float :=
  if d.scale = 0 then Binary64.nearest (d.neg && d.mant != 0) d.mant 1
  else
    let p := 10 ^ d.scale
    let integral := d.mant / p
    let frac := d.mant % p
    let pf := Binary64.nearest false p 1
    let value := Binary64.nearest false integral 1 + Binary64.nearest false frac 1 / pf
    let value := if frac = 0 then value else Binary64.roundAway (value * pf) / pf
    if d.neg then Binary64.negate value else value

end TypedExpr.Decimal
