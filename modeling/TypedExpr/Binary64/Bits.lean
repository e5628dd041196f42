/-! Binary64 numbers as exact data. A double is read from its 64 bits as a sign, an integer
significand and a binary exponent, and built back from the same three parts, so every later rounding
step is ordinary arithmetic on `Nat` and `Int`. -/

-- Powers of naturals and integers are the core ones, also where an algebra library is loaded,
-- so that every bound below is the same term wherever it is read.
attribute [instance (20000), default_instance (20000)] instPowNat

namespace TypedExpr.Binary64

/-- A finite double: `(-1)^neg * sig * 2^exp`. -/
structure Finite where
  neg : Bool
  sig : Nat
  exp : Int
  deriving Repr, DecidableEq

/-- The three kinds of double. -/
inductive Kind where
  | nan
  | inf (neg : Bool)
  | finite (f : Finite)
  deriving Repr, DecidableEq

def fracBits : Nat := 52

def minExp : Int := -1074

def maxExp : Int := 971

def signBit (x : Float) : Bool := x.toBits.toNat / 2 ^ 63 % 2 == 1

def classify (x : Float) : Kind :=
  let b := x.toBits.toNat
  let neg := b / 2 ^ 63 % 2 == 1
  let biased := b / 2 ^ fracBits % 2048
  let frac := b % 2 ^ fracBits
  if biased = 2047 then
    if frac = 0 then .inf neg else .nan
  else if biased = 0 then
    .finite ⟨neg, frac, minExp⟩
  else
    .finite ⟨neg, frac + 2 ^ fracBits, (biased : Int) - 1075⟩

def ofFields (neg : Bool) (biased frac : Nat) : Float :=
  Float.ofBits (UInt64.ofNat ((if neg then 2 ^ 63 else 0) + biased * 2 ^ fracBits + frac))

def zero (neg : Bool) : Float := ofFields neg 0 0

def infinity (neg : Bool) : Float := ofFields neg 2047 0

def nan : Float := ofFields false 2047 (2 ^ 51)

def pack (neg : Bool) (sig : Nat) (exp : Int) : Float :=
  if sig < 2 ^ fracBits then ofFields neg 0 sig
  else ofFields neg (exp + 1075).toNat (sig - 2 ^ fracBits)

def negate (x : Float) : Float :=
  Float.ofBits (UInt64.ofNat ((x.toBits.toNat + 2 ^ 63) % 2 ^ 64))

def Finite.num (f : Finite) : Nat := if f.exp ≥ 0 then f.sig * 2 ^ f.exp.toNat else f.sig

def Finite.den (f : Finite) : Nat := if f.exp ≥ 0 then 1 else 2 ^ (-f.exp).toNat

theorem Finite.den_pos (f : Finite) : 0 < f.den := by
  unfold Finite.den
  split
  · exact Nat.one_pos
  · exact Nat.two_pow_pos _

def Finite.signedNum (f : Finite) : Int := if f.neg then -(f.num : Int) else f.num

def Finite.compare (a b : Finite) : Ordering :=
  Ord.compare (a.signedNum * b.den) (b.signedNum * a.den)

def compare? (x y : Float) : Option Ordering :=
  match classify x, classify y with
  | .nan, _ => none
  | _, .nan => none
  | .inf a, .inf b => some (if a == b then .eq else if a then .lt else .gt)
  | .inf a, .finite _ => some (if a then .lt else .gt)
  | .finite _, .inf b => some (if b then .gt else .lt)
  | .finite a, .finite b => some (a.compare b)

/-- IEEE equality: no NaN equals anything, and the two zeros are equal. -/
def eq (x y : Float) : Bool := compare? x y == some .eq

def isNonzero (x : Float) : Bool :=
  match classify x with
  | .finite f => f.sig != 0
  | _ => true

def isFinite (x : Float) : Bool :=
  match classify x with
  | .finite _ => true
  | _ => false

end TypedExpr.Binary64
