import TypedExpr.Json.Basic
import TypedExpr.Binary64.Nearest

/-! Reading JSON text. The grammar is strict JSON. -/

namespace TypedExpr.Json

def isWs (c : Char) : Bool := c == ' ' || c == '\t' || c == '\n' || c == '\r'

def hexDigit? (c : Char) : Option Nat :=
  if '0' ≤ c ∧ c ≤ '9' then some (c.toNat - '0'.toNat)
  else if 'a' ≤ c ∧ c ≤ 'f' then some (c.toNat - 'a'.toNat + 10)
  else if 'A' ≤ c ∧ c ≤ 'F' then some (c.toNat - 'A'.toNat + 10)
  else none

def hex4? : List Char → Option (Nat × List Char)
  | a :: b :: c :: d :: rest => do
    let a ← hexDigit? a
    let b ← hexDigit? b
    let c ← hexDigit? c
    let d ← hexDigit? d
    pure (((a * 16 + b) * 16 + c) * 16 + d, rest)
  | _ => none

def unicodeEscape? (cs : List Char) : Option (Char × List Char) := do
  let (hi, rest) ← hex4? cs
  if 0xD800 ≤ hi ∧ hi < 0xDC00 then
    match rest with
    | '\\' :: 'u' :: rest' =>
      let (lo, rest'') ← hex4? rest'
      if 0xDC00 ≤ lo ∧ lo < 0xE000 then
        pure (Char.ofNat (0x10000 + (hi - 0xD800) * 0x400 + (lo - 0xDC00)), rest'')
      else none
    | _ => none
  else if 0xDC00 ≤ hi ∧ hi < 0xE000 then none
  else pure (Char.ofNat hi, rest)

def readString (fuel : Nat) (acc : List Char) (cs : List Char) : Option (String × List Char) :=
  match fuel with
  | 0 => none
  | fuel + 1 =>
    match cs with
    | [] => none
    | '"' :: rest => some (String.ofList acc.reverse, rest)
    | '\\' :: c :: rest =>
      if c = '"' then readString fuel ('"' :: acc) rest
      else if c = '\\' then readString fuel ('\\' :: acc) rest
      else if c = '/' then readString fuel ('/' :: acc) rest
      else if c = 'b' then readString fuel ('\x08' :: acc) rest
      else if c = 'f' then readString fuel ('\x0c' :: acc) rest
      else if c = 'n' then readString fuel ('\n' :: acc) rest
      else if c = 'r' then readString fuel ('\r' :: acc) rest
      else if c = 't' then readString fuel ('\t' :: acc) rest
      else if c = 'u' then
        match unicodeEscape? rest with
        | some (ch, rest') => readString fuel (ch :: acc) rest'
        | none => none
      else none
    | c :: rest => if c.toNat < 0x20 then none else readString fuel (c :: acc) rest

def digitsPrefix (cs : List Char) : List Char × List Char :=
  (cs.takeWhile Char.isDigit, cs.dropWhile Char.isDigit)

def digitsNat (cs : List Char) : Nat := cs.foldl (fun n c => 10 * n + (c.toNat - '0'.toNat)) 0

def readNumber (cs : List Char) : Option (JsonNumber × List Char) :=
  let (neg, cs) := match cs with
    | '-' :: r => (true, r)
    | r => (false, r)
  let (intDigits, rest) := digitsPrefix cs
  let intOk := match intDigits with
    | [] => false
    | '0' :: more => more.isEmpty
    | _ => true
  if !intOk then none else
  let (fracDigits, hasFrac, rest) := match rest with
    | '.' :: r => ((digitsPrefix r).1, true, (digitsPrefix r).2)
    | r => ([], false, r)
  if hasFrac && fracDigits.isEmpty then none else
  let expPart : Option (Option Int × List Char) := match rest with
    | c :: r =>
      if c = 'e' ∨ c = 'E' then
        let (eneg, r) := match r with
          | '-' :: r' => (true, r')
          | '+' :: r' => (false, r')
          | r' => (false, r')
        let (eds, r) := digitsPrefix r
        if eds.isEmpty then none
        else some (some (if eneg then -(digitsNat eds : Int) else digitsNat eds), r)
      else some (none, rest)
    | [] => some (none, rest)
  match expPart with
  | none => none
  | some (expo, rest) =>
    let mant := digitsNat (intDigits ++ fracDigits)
    if !hasFrac && expo.isNone then
      let n : Int := if neg then -(mant : Int) else mant
      if neg && mant = 0 then some (.float (Binary64.zero true), rest)
      else if -(2 ^ 63 : Int) ≤ n ∧ n < 2 ^ 64 then some (.int n, rest)
      else some (.float (Binary64.ofDecimal neg mant 0), rest)
    else
      some (.float (Binary64.ofDecimal neg mant (expo.getD 0 - fracDigits.length)), rest)

def word? (w : List Char) (cs : List Char) : Option (List Char) :=
  if w.isPrefixOf cs then some (cs.drop w.length) else none

mutual
def readValue (fuel : Nat) (cs : List Char) : Option (Json × List Char) :=
  match fuel with
  | 0 => none
  | fuel + 1 =>
    match cs.dropWhile isWs with
    | '{' :: rest => readMembers fuel [] true rest
    | '[' :: rest => readItems fuel [] true rest
    | '"' :: rest => (readString fuel [] rest).map fun (s, r) => (.str s, r)
    | rest@('t' :: _) => (word? "true".toList rest).map fun r => (.bool true, r)
    | rest@('f' :: _) => (word? "false".toList rest).map fun r => (.bool false, r)
    | rest@('n' :: _) => (word? "null".toList rest).map fun r => (.null, r)
    | rest => (readNumber rest).map fun (n, r) => (.num n, r)

def readItems (fuel : Nat) (acc : List Json) (first : Bool) (cs : List Char) :
    Option (Json × List Char) :=
  match fuel with
  | 0 => none
  | fuel + 1 =>
    match cs.dropWhile isWs with
    | ']' :: rest => if first then some (.arr [], rest) else none
    | rest =>
      match readValue fuel rest with
      | none => none
      | some (j, rest') =>
        match rest'.dropWhile isWs with
        | ',' :: r => readItems fuel (j :: acc) false r
        | ']' :: r => some (.arr (j :: acc).reverse, r)
        | _ => none

def readMembers (fuel : Nat) (acc : List (String × Json)) (first : Bool) (cs : List Char) :
    Option (Json × List Char) :=
  match fuel with
  | 0 => none
  | fuel + 1 =>
    match cs.dropWhile isWs with
    | '}' :: rest => if first then some (.obj (canonical acc.reverse), rest) else none
    | '"' :: rest =>
      match readString fuel [] rest with
      | none => none
      | some (k, rest') =>
        match rest'.dropWhile isWs with
        | ':' :: r =>
          match readValue fuel r with
          | none => none
          | some (v, r') =>
            match r'.dropWhile isWs with
            | ',' :: r'' => readMembers fuel ((k, v) :: acc) false r''
            | '}' :: r'' => some (.obj (canonical ((k, v) :: acc).reverse), r'')
            | _ => none
        | _ => none
    | _ => none
end

/-- Reads a whole JSON text; trailing whitespace is allowed, anything else is not. -/
def read? (s : String) : Option Json :=
  let cs := s.toList
  match readValue (2 * cs.length + 2) cs with
  | some (j, rest) => if (rest.dropWhile isWs).isEmpty then some j else none
  | none => none

end TypedExpr.Json
