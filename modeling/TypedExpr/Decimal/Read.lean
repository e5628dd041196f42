import TypedExpr.Decimal.Basic

/-! Reading decimal text: an optional sign, digits with at most one point, underscores between
digits. -/

namespace TypedExpr.Decimal

/-- Progress of a reading: the mantissa so far, digits after the point, whether the point and any
digit have been seen. -/
structure Reading where
  mant : Nat
  scale : Nat
  point : Bool
  digits : Bool

def roundBy (neg : Bool) (mant scale : Nat) (c : Char) : Option Decimal :=
  let d? : Option Nat :=
    if c.isDigit then some (c.toNat - '0'.toNat) else if c = '_' ∨ c = '.' then some 0 else none
  match d? with
  | none => none
  | some d =>
    if d < 5 then make? neg mant scale
    else if mant + 1 < 2 ^ 96 then make? neg (mant + 1) scale
    else if scale = 0 then none
    else make? neg ((mant + 1 + 4) / 10) (scale - 1)

def readBody (neg : Bool) : Reading → List Char → Option Decimal
  | r, [] => if r.digits then make? neg r.mant r.scale else none
  | r, c :: rest =>
    if c.isDigit then
      let next := r.mant * 10 + (c.toNat - '0'.toNat)
      if next ≥ 2 ^ 96 then
        if r.point then roundBy neg r.mant r.scale c else none
      else
        let scale := if r.point then r.scale + 1 else r.scale
        match rest with
        | [] => make? neg next scale
        | c' :: _ =>
          if r.point && scale ≥ maxScale then roundBy neg next scale c'
          else readBody neg ⟨next, scale, r.point, true⟩ rest
    else if c = '.' then
      if r.point then none else readBody neg { r with point := true } rest
    else if c = '_' && r.digits then readBody neg r rest
    else none

/-- Reads decimal text such as `1.50`, `-0.75`, `+3`, `.5`, `1_000`. -/
def read? (s : String) : Option Decimal :=
  let start : Reading := ⟨0, 0, false, false⟩
  match s.toList with
  | '-' :: rest => readBody true start rest
  | '+' :: rest => readBody false start rest
  | cs => readBody false start cs

def splitExponent (cs : List Char) : Option (List Char × List Char) :=
  match cs.findIdx? (fun c => c == 'e' || c == 'E') with
  | some i => some (cs.take i, cs.drop (i + 1))
  | none => none

def readScientific? (s : String) : Option Decimal := do
  let (base, expo) ← splitExponent s.toList
  let d ← read? (String.ofList base)
  match expo with
  | '-' :: ds =>
    if ds.isEmpty || !ds.all Char.isDigit then none else
    let e := ds.foldl (fun n c => 10 * n + (c.toNat - '0'.toNat)) 0
    if e > maxScale then none else make? d.neg d.mant (d.scale + e)
  | ds =>
    let ds := match ds with | '+' :: r => r | r => r
    if ds.isEmpty || !ds.all Char.isDigit then none else
    let e := ds.foldl (fun n c => 10 * n + (c.toNat - '0'.toNat)) 0
    if e ≤ d.scale then make? d.neg d.mant (d.scale - e)
    else if d.mant = 0 then make? d.neg 0 0
    else if e - d.scale > 29 then none
    else make? d.neg (d.mant * 10 ^ (e - d.scale)) 0

def readAny? (s : String) : Option Decimal :=
  match read? s with
  | some d => some d
  | none => readScientific? s

end TypedExpr.Decimal
