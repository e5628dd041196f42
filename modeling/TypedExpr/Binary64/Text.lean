import TypedExpr.Binary64.Shortest

/-! Text of doubles. Both written forms start from the shortest digits; a `Layout` fixes where
scientific notation takes over, whether whole numbers keep `.0`, and the exponent's sign. -/

namespace TypedExpr.Binary64

/-- Choices of a written form of finite doubles. -/
structure Layout where
  sciAbove : Option Int
  sciAtMost : Option Int
  pointZero : Bool
  expPlus : Bool

def Layout.display : Layout := ⟨none, none, false, false⟩

def Layout.json : Layout := ⟨some 16, some (-5), true, true⟩

def zeros (n : Nat) : String := String.ofList (List.replicate n '0')

def Layout.write (l : Layout) (d : Decimal10) : String :=
  let ds := Nat.toDigits 10 d.digits
  let len := ds.length
  let kk : Int := len + d.exp
  let sci := (match l.sciAbove with | some a => kk > a | none => false) ||
             (match l.sciAtMost with | some b => kk ≤ b | none => false)
  if sci then
    let e := kk - 1
    let mant := match ds with
      | [] => "0"
      | [c] => String.singleton c
      | c :: rest => String.singleton c ++ "." ++ String.ofList rest
    mant ++ "e" ++ (if e < 0 then "-" else if l.expPlus then "+" else "") ++ toString e.natAbs
  else if d.exp ≥ 0 then
    String.ofList ds ++ zeros d.exp.toNat ++ (if l.pointZero then ".0" else "")
  else if kk > 0 then
    String.ofList (ds.take kk.toNat) ++ "." ++ String.ofList (ds.drop kk.toNat)
  else
    "0." ++ zeros (-kk).toNat ++ String.ofList ds

def Finite.write (l : Layout) (f : Finite) : String :=
  let body := if f.sig = 0 then l.write ⟨0, 0⟩ else l.write f.shortest
  (if f.neg then "-" else "") ++ body

def display (x : Float) : String :=
  match classify x with
  | .nan => "NaN"
  | .inf neg => if neg then "-inf" else "inf"
  | .finite f => f.write .display

def json? (x : Float) : Option String :=
  match classify x with
  | .finite f => some (f.write .json)
  | _ => none

def digitsValue (cs : List Char) : Nat :=
  cs.foldl (fun n c => 10 * n + (c.toNat - '0'.toNat)) 0

def readUnsigned? (cs : List Char) : Option (Nat × Int) :=
  let intPart := cs.takeWhile Char.isDigit
  let rest := cs.dropWhile Char.isDigit
  let (fracPart, rest) := match rest with
    | '.' :: r => (r.takeWhile Char.isDigit, r.dropWhile Char.isDigit)
    | _ => ([], rest)
  if intPart.isEmpty && fracPart.isEmpty then none else
  let mant := digitsValue (intPart ++ fracPart)
  let expo : Option Int := match rest with
    | [] => some 0
    | c :: r =>
      if c == 'e' || c == 'E' then
        let (neg, ds) := match r with
          | '-' :: ds => (true, ds)
          | '+' :: ds => (false, ds)
          | ds => (false, ds)
        if !ds.isEmpty && ds.all Char.isDigit then
          some (if neg then -(digitsValue ds : Int) else digitsValue ds)
        else none
      else none
  expo.map fun e => (mant, e - fracPart.length)

def lowerAscii (cs : List Char) : List Char := cs.map Char.toLower

/-- Reads the text of a double: an optional sign, then a decimal or scientific number or one of the
words `inf`, `infinity`, `nan` in any case. -/
def read? (s : String) : Option Float :=
  let (neg, body) := match s.toList with
    | '-' :: r => (true, r)
    | '+' :: r => (false, r)
    | r => (false, r)
  let word := String.ofList (lowerAscii body)
  if word == "inf" || word == "infinity" then some (infinity neg)
  else if word == "nan" then some nan
  else (readUnsigned? body).map fun (m, e) => ofDecimal neg m e

end TypedExpr.Binary64
