import TypedExpr.Binary64.Text

/-! JSON documents. A number is either an integer literal or a double, as a JSON reader keeps them
apart. -/

namespace TypedExpr

/-- A JSON number: an integer written without fraction or exponent, or a double. -/
inductive JsonNumber where
  | int (n : Int)
  | float (x : Float)

/-- A JSON document. -/
inductive Json where
  | null
  | bool (b : Bool)
  | num (n : JsonNumber)
  | str (s : String)
  | arr (items : List Json)
  | obj (members : List (String × Json))

/-- JSON text of a number; a double that is not finite has no JSON text and writes `null`. -/
def JsonNumber.render : JsonNumber → String
  | .int n => toString n
  | .float x => (Binary64.json? x).getD "null"

namespace Json

def insertMember (k : String) (v : Json) : List (String × Json) → List (String × Json)
  | [] => [(k, v)]
  | (k', v') :: rest =>
    if k < k' then (k, v) :: (k', v') :: rest
    else if k = k' then (k, v) :: rest
    else (k', v') :: insertMember k v rest

def canonical (members : List (String × Json)) : List (String × Json) :=
  members.foldl (fun acc kv => insertMember kv.1 kv.2 acc) []

def escapeChar (c : Char) : String :=
  if c = '"' then "\\\""
  else if c = '\\' then "\\\\"
  else if c = '\n' then "\\n"
  else if c = '\r' then "\\r"
  else if c = '\t' then "\\t"
  else if c = '\x08' then "\\b"
  else if c = '\x0c' then "\\f"
  else if c.toNat < 0x20 then
    let h := Nat.toDigits 16 c.toNat
    "\\u" ++ String.ofList (List.replicate (4 - h.length) '0' ++ h)
  else String.singleton c

def quote (s : String) : String :=
  "\"" ++ String.join (s.toList.map escapeChar) ++ "\""

def indent (depth : Nat) : String := String.ofList (List.replicate (2 * depth) ' ')

mutual
/-- Compact JSON text. -/
def render : Json → String
  | .null => "null"
  | .bool b => if b then "true" else "false"
  | .num n => n.render
  | .str s => quote s
  | .arr items => "[" ++ renderItems items ++ "]"
  | .obj members => "\x7b" ++ renderMembers members ++ "\x7d"

def renderItems : List Json → String
  | [] => ""
  | [j] => render j
  | j :: rest => render j ++ "," ++ renderItems rest

def renderMembers : List (String × Json) → String
  | [] => ""
  | [(k, v)] => quote k ++ ":" ++ render v
  | (k, v) :: rest => quote k ++ ":" ++ render v ++ "," ++ renderMembers rest
end

mutual
def pretty (depth : Nat) : Json → String
  | .arr [] => "[]"
  | .arr items => "[\n" ++ prettyItems (depth + 1) items ++ "\n" ++ indent depth ++ "]"
  | .obj [] => "\x7b\x7d"
  | .obj members => "\x7b\n" ++ prettyMembers (depth + 1) members ++ "\n" ++ indent depth ++ "\x7d"
  | j => render j

def prettyItems (depth : Nat) : List Json → String
  | [] => ""
  | [j] => indent depth ++ pretty depth j
  | j :: rest => indent depth ++ pretty depth j ++ ",\n" ++ prettyItems depth rest

def prettyMembers (depth : Nat) : List (String × Json) → String
  | [] => ""
  | [(k, v)] => indent depth ++ quote k ++ ": " ++ pretty depth v
  | (k, v) :: rest => indent depth ++ quote k ++ ": " ++ pretty depth v ++ ",\n" ++ prettyMembers depth rest
end

def field? (j : Json) (k : String) : Option Json :=
  match j with
  | .obj members => members.lookup k
  | _ => none

end Json

end TypedExpr
