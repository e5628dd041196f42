import TypedExpr.Value.Ty
import TypedExpr.Value.Calendar
import TypedExpr.Decimal.Arith

/-! Dynamic values: the targets, parameters and results of expressions. Integers are 64-bit, floats
are doubles, decimals have a 96-bit mantissa. -/

namespace TypedExpr

/-- A dynamic value. -/
inductive Value where
  | null
  | bool (b : Bool)
  | int (n : Int64)
  | float (x : Float)
  | dec (d : Decimal)
  | str (s : String)
  | char (c : Char)
  | date (d : Date)
  | dateTime (t : DateTime)
  | list (items : List Value)
  | set (items : List Value)
  | map (entries : List (String × Value))

instance : Inhabited Value := ⟨.null⟩

namespace Value

/-- Name of the kind of a value, as used in messages. -/
def typeName : Value → String
  | .null => "Null"
  | .bool _ => "Boolean"
  | .int _ => "Integer"
  | .float _ => "Float"
  | .dec _ => "Decimal"
  | .str _ => "String"
  | .char _ => "Char"
  | .date _ => "Date"
  | .dateTime _ => "DateTime"
  | .list _ => "List"
  | .set _ => "Set"
  | .map _ => "Map"

def isNumeric : Value → Bool
  | .int _ | .float _ | .dec _ => true
  | _ => false

/-- Whether the value is null. -/
def isNull : Value → Bool
  | .null => true
  | _ => false

def truthy : Value → Bool
  | .null => false
  | .bool b => b
  | .int n => n != 0
  | .float x => Binary64.isNonzero x
  | .dec d => !d.isZero
  | .str s => !s.isEmpty
  | .char c => c != '\x00'
  | _ => true

def toFloat? : Value → Option Float
  | .int n => some (Binary64.ofInt n.toInt)
  | .float x => some x
  | .dec d => some d.toFloat
  | _ => none

def lookup (k : String) : List (String × Value) → Option Value
  | [] => none
  | (k', v) :: rest => if k' = k then some v else lookup k rest

def insertAt (k : String) (v : Value) : List (String × Value) → List (String × Value)
  | [] => [(k, v)]
  | (k', v') :: rest => if k' = k then (k, v) :: rest else (k', v') :: insertAt k v rest

def mapOf (entries : List (String × Value)) : List (String × Value) :=
  entries.foldl (fun m (k, v) => insertAt k v m) []

mutual
/-- Structural equality. -/
def same : Value → Value → Bool
  | .null, .null => true
  | .bool a, .bool b => a == b
  | .int a, .int b => a == b
  | .float a, .float b => Binary64.eq a b
  | .dec a, .dec b => a.eqv b
  | .str a, .str b => a == b
  | .char a, .char b => a == b
  | .date a, .date b => a == b
  | .dateTime a, .dateTime b => a == b
  | .list a, .list b => sameItems a b
  | .set a, .set b => sameItems a b
  | .map a, .map b => a.length == b.length && sameEntries a b
  | _, _ => false

def sameItems : List Value → List Value → Bool
  | [], [] => true
  | a :: as, b :: bs => same a b && sameItems as bs
  | _, _ => false

def sameEntries : List (String × Value) → List (String × Value) → Bool
  | [], _ => true
  | (k, v) :: rest, other =>
    (match lookup k other with
     | some w => same v w
     | none => false) && sameEntries rest other
end

def memSame (v : Value) : List Value → Bool
  | [] => false
  | w :: rest => same w v || memSame v rest

def dedupFrom (seen : List Value) : List Value → List Value
  | [] => seen.reverse
  | v :: rest => if memSame v seen then dedupFrom seen rest else dedupFrom (v :: seen) rest

def setOf (items : List Value) : Value := .set (dedupFrom [] items)

mutual
/-- The type descriptor of a value: containers report the one type all their non-null elements
share, or `Any`; null reports `Any`. -/
def ty : Value → Ty
  | .null => .any
  | .bool _ => .bool
  | .int _ => .int
  | .float _ => .float
  | .dec _ => .dec
  | .str _ => .str
  | .char _ => .char
  | .date _ => .date
  | .dateTime _ => .dateTime
  | .list items => .list (commonTy none items)
  | .set items => .set (commonTy none items)
  | .map entries => .map (commonEntryTy none entries)

def commonTy (found : Option Ty) : List Value → Ty
  | [] => found.getD .any
  | v :: rest =>
    match v with
    | .null => commonTy found rest
    | _ =>
      let t := ty v
      match found with
      | none => commonTy (some t) rest
      | some f => if f = t then commonTy found rest else .any

def commonEntryTy (found : Option Ty) : List (String × Value) → Ty
  | [] => found.getD .any
  | (_, v) :: rest =>
    match v with
    | .null => commonEntryTy found rest
    | _ =>
      let t := ty v
      match found with
      | none => commonEntryTy (some t) rest
      | some f => if f = t then commonEntryTy found rest else .any
end

end Value

namespace Ty

mutual
/-- Whether a value may stand where the descriptor is expected. -/
def accepts : Ty → Value → Bool
  | _, .null => true
  | .any, _ => true
  | .num, v => v.isNumeric
  | .bool, .bool _ => true
  | .int, .int _ => true
  | .float, .float _ => true
  | .dec, .dec _ => true
  | .str, .str _ => true
  | .char, .char _ => true
  | .date, .date _ => true
  | .dateTime, .dateTime _ => true
  | .list e, .list items => !e.isConstrained || acceptsAll e items
  | .set e, .set items => !e.isConstrained || acceptsAll e items
  | .map e, .map entries => !e.isConstrained || acceptsEntries e entries
  | _, _ => false

def acceptsAll (e : Ty) : List Value → Bool
  | [] => true
  | v :: rest => accepts e v && acceptsAll e rest

def acceptsEntries (e : Ty) : List (String × Value) → Bool
  | [] => true
  | (_, v) :: rest => accepts e v && acceptsEntries e rest
end

end Ty

end TypedExpr
