import TypedExpr.Binary64.Nearest

/-! The shortest decimal that reads back as a given double. The doubles that round to a finite `x`
form an interval around it (ends included when the significand is even). -/

namespace TypedExpr.Binary64

/-- A decimal `digits * 10^exp`. -/
structure Decimal10 where
  digits : Nat
  exp : Int
  deriving Repr, DecidableEq

def Decimal10.trim (d : Decimal10) : Decimal10 :=
  if h : d.digits ≠ 0 ∧ d.digits % 10 = 0 then
    have : d.digits / 10 < d.digits := Nat.div_lt_self (Nat.pos_of_ne_zero h.1) (by decide)
    Decimal10.trim ⟨d.digits / 10, d.exp + 1⟩
  else d
termination_by d.digits

/-- The rounding interval of a positive finite double, scaled by `2^t`: the value, the two ends, and
whether the ends belong to it. -/
structure Interval where
  t : Nat
  value : Nat
  low : Nat
  high : Nat
  closed : Bool

def Finite.interval (f : Finite) : Interval :=
  let t : Nat := if f.exp ≥ 2 then 0 else (2 - f.exp).toNat
  let u : Nat := 2 ^ (f.exp - 2 + t).toNat
  let narrowBelow := f.sig = 2 ^ fracBits ∧ f.exp > minExp
  { t := t
    value := 4 * f.sig * u
    low := (if narrowBelow then 4 * f.sig - 1 else 4 * f.sig - 2) * u
    high := (4 * f.sig + 2) * u
    closed := f.sig % 2 == 0 }

def below (closed : Bool) (a b : Nat) : Bool := if closed then a ≤ b else a < b

def powTenAtMost (p : Int) (i : Interval) : Bool :=
  if p ≥ 0 then 10 ^ p.toNat * 2 ^ i.t ≤ i.value else 2 ^ i.t ≤ i.value * 10 ^ (-p).toNat

def leadingExp (f : Finite) (i : Interval) : Int :=
  let bits : Int := (f.sig.log2 : Int) + f.exp
  let p0 := Int.fdiv (bits * 1233) 4096
  if powTenAtMost (p0 + 1) i then p0 + 1
  else if powTenAtMost p0 i then p0
  else p0 - 1

def onGrid (i : Interval) (k : Int) : Option Nat :=
  let p := 10 ^ k.toNat * 2 ^ i.t
  let q := 10 ^ (-k).toNat
  let v := i.value * q
  let lo := v / p
  let hi := lo + 1
  let inside (c : Nat) : Bool := below i.closed (i.low * q) (c * p) && below i.closed (c * p) (i.high * q)
  match inside lo, inside hi with
  | true, true => if v - lo * p < hi * p - v then some lo else some hi
  | true, false => some lo
  | false, true => some hi
  | false, false => none

def searchGrids (i : Interval) (p : Int) : Nat → Nat → Option Decimal10
  | 0, _ => none
  | fuel + 1, n =>
    match onGrid i (p - n + 1) with
    | some c => some ⟨c, p - n + 1⟩
    | none => searchGrids i p fuel (n + 1)

def Finite.shortest (f : Finite) : Decimal10 :=
  let i := f.interval
  let p := leadingExp f i
  match searchGrids i p 17 1 with
  | some d => d.trim
  | none => (⟨roundHalfEven (i.value * 10 ^ (16 - p).toNat) (2 ^ i.t * 10 ^ (p - 16).toNat), p - 16⟩ : Decimal10).trim

end TypedExpr.Binary64
