import TypedExpr.Value.Basic

/-! Shapes that a result may be taken out as: a boolean, integer, double, decimal, string,
character, date or date-time; any value; an optional shape, where null stands for nothing; and
lists, sets and maps of a shape. -/

namespace TypedExpr

/-- A shape a result may be taken out as. -/
inductive Shape where
  | bool
  | int
  | float
  | dec
  | str
  | char
  | date
  | dateTime
  | value
  | option (s : Shape)
  | list (s : Shape)
  | set (s : Shape)
  | map (s : Shape)
  deriving DecidableEq, Repr

namespace Shape

/-- The type descriptor of a shape; an optional shape has that of its inner shape. -/
def ty : Shape → Ty
  | .bool => .bool
  | .int => .int
  | .float => .float
  | .dec => .dec
  | .str => .str
  | .char => .char
  | .date => .date
  | .dateTime => .dateTime
  | .value => .any
  | .option s => s.ty
  | .list s => .list s.ty
  | .set s => .set s.ty
  | .map s => .map s.ty

mutual
/-- Whether a value has the shape. -/
def fits : Shape → Value → Bool
  | .bool, .bool _ => true
  | .int, .int _ => true
  | .float, .float _ => true
  | .dec, .dec _ => true
  | .str, .str _ => true
  | .char, .char _ => true
  | .date, .date _ => true
  | .dateTime, .dateTime _ => true
  | .value, _ => true
  | .option _, .null => true
  | .option s, v => fits s v
  | .list s, .list items => fitsAll s items
  | .set s, .set items => fitsAll s items
  | .map s, .map entries => fitsEntries s entries
  | _, _ => false

def fitsAll (s : Shape) : List Value → Bool
  | [] => true
  | v :: rest => fits s v && fitsAll s rest

def fitsEntries (s : Shape) : List (String × Value) → Bool
  | [] => true
  | (_, v) :: rest => fits s v && fitsEntries s rest
end

end Shape

end TypedExpr
