import TypedExpr.Value.Basic
import TypedExpr.Json.Basic
import TypedExpr.Binary64.Text

/-! Three written forms of a value, and reading values from JSON. * `render` is the text shown to
people and used by string concatenation: numbers as written, strings and characters bare, lists and
sets as `[a, b]`, maps as `{k=v, ...}`. -/

namespace TypedExpr

namespace Value

mutual
/-- The display text of a value. -/
def render : Value → String
  | .null => "null"
  | .bool b => if b then "true" else "false"
  | .int n => toString n.toInt
  | .float x => Binary64.display x
  | .dec d => d.render
  | .str s => s
  | .char c => String.singleton c
  | .date d => d.render
  | .dateTime t => t.render
  | .list items => "[" ++ renderItems items ++ "]"
  | .set items => "[" ++ renderItems items ++ "]"
  | .map entries => "\x7b" ++ renderEntries entries ++ "\x7d"

def renderItems : List Value → String
  | [] => ""
  | [v] => render v
  | v :: rest => render v ++ ", " ++ renderItems rest

def renderEntries : List (String × Value) → String
  | [] => ""
  | [(k, v)] => k ++ "=" ++ render v
  | (k, v) :: rest => k ++ "=" ++ render v ++ ", " ++ renderEntries rest
end

def floatJson (x : Float) : Json :=
  if Binary64.isFinite x then .num (.float x) else .null

mutual
/-- The JSON view of a value. -/
def toJson : Value → Json
  | .null => .null
  | .bool b => .bool b
  | .int n => .num (.int n.toInt)
  | .float x => floatJson x
  | .dec d => .str d.render
  | .str s => .str s
  | .char c => .str (String.singleton c)
  | .date d => .str d.render
  | .dateTime t => .str t.render
  | .list items => .arr (itemsJson items)
  | .set items => .arr (itemsJson items)
  | .map entries => .obj (Json.canonical (entriesJson entries))

def itemsJson : List Value → List Json
  | [] => []
  | v :: rest => toJson v :: itemsJson rest

def entriesJson : List (String × Value) → List (String × Json)
  | [] => []
  | (k, v) :: rest => (k, toJson v) :: entriesJson rest
end

mutual
def serialize : Value → String
  | .null => "null"
  | .bool b => if b then "true" else "false"
  | .int n => toString n.toInt
  | .float x => (Binary64.json? x).getD "null"
  | .dec d => Json.quote d.render
  | .str s => Json.quote s
  | .char c => Json.quote (String.singleton c)
  | .date d => Json.quote d.render
  | .dateTime t => Json.quote t.render
  | .list items => "[" ++ serializeItems items ++ "]"
  | .set items => "[" ++ serializeItems items ++ "]"
  | .map entries => "\x7b" ++ serializeEntries entries ++ "\x7d"

def serializeItems : List Value → String
  | [] => ""
  | [v] => serialize v
  | v :: rest => serialize v ++ "," ++ serializeItems rest

def serializeEntries : List (String × Value) → String
  | [] => ""
  | [(k, v)] => Json.quote k ++ ":" ++ serialize v
  | (k, v) :: rest => Json.quote k ++ ":" ++ serialize v ++ "," ++ serializeEntries rest
end

def ofJsonNumber : JsonNumber → Value
  | .int n =>
    if -(2 ^ 63 : Int) ≤ n ∧ n < 2 ^ 63 then .int (Int64.ofInt n) else .float (Binary64.ofInt n)
  | .float x => .float x

mutual
/-- The value of a JSON document. -/
def ofJson : Json → Value
  | .null => .null
  | .bool b => .bool b
  | .num n => ofJsonNumber n
  | .str s => .str s
  | .arr items => .list (ofJsonItems items)
  | .obj members => .map (ofJsonMembers members)

def ofJsonItems : List Json → List Value
  | [] => []
  | j :: rest => ofJson j :: ofJsonItems rest

def ofJsonMembers : List (String × Json) → List (String × Value)
  | [] => []
  | (k, j) :: rest => (k, ofJson j) :: ofJsonMembers rest
end

end Value

end TypedExpr
