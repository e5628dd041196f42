import TypedExpr.Value.Text
import TypedExpr.Syntax.Expr
import TypedExpr.Eval.Fault
import TypedExpr.Binary64.Arith
import TypedExpr.Text.Search

/-! What the operators do to values. Numbers of two kinds are first brought to one kind: two
integers stay integers, a double on either side makes both doubles, and otherwise a decimal and an
integer meet as decimals. -/

namespace TypedExpr

def int64? (n : Int) : Option Int64 :=
  if -(2 ^ 63 : Int) ≤ n ∧ n < 2 ^ 63 then some (Int64.ofInt n) else none

def int64Min : Int := -(2 ^ 63)

def charsCompare : List Char → List Char → Ordering
  | [], [] => .eq
  | [], _ :: _ => .lt
  | _ :: _, [] => .gt
  | a :: as, b :: bs =>
    match Ord.compare a.val b.val with
    | .eq => charsCompare as bs
    | o => o

/-- Two numbers brought to one kind. -/
inductive Promoted where
  | int (a b : Int64)
  | dec (a b : Decimal)
  | float (a b : Float)

namespace Value

def isFloat : Value → Bool
  | .float _ => true
  | _ => false

def isText : Value → Bool
  | .str _ | .char _ => true
  | _ => false

def promote (l r : Value) : Option Promoted :=
  match l, r with
  | .int a, .int b => some (.int a b)
  | .dec a, .dec b => some (.dec a b)
  | .dec a, .int b => some (.dec a (Decimal.ofInt64 b))
  | .int a, .dec b => some (.dec (Decimal.ofInt64 a) b)
  | _, _ =>
    if l.isFloat || r.isFloat then
      match l.toFloat?, r.toFloat? with
      | some a, some b => some (.float a b)
      | _, _ => none
    else none

def badOperands (op : BinOp) (l r : Value) : Fault :=
  .invalidOperands op.symbol l.typeName r.typeName

def intArith (op : BinOp) (a b : Int64) : Option (Except Fault Int64) :=
  let x := a.toInt
  let y := b.toInt
  let checked (n : Int) : Except Fault Int64 :=
    match int64? n with
    | some v => .ok v
    | none => .error (.overflow op.symbol)
  match op with
  | .add => some (checked (x + y))
  | .sub => some (checked (x - y))
  | .mul => some (checked (x * y))
  | .div => some (if y = 0 then .error .divisionByZero else checked (x.tdiv y))
  | .rem =>
    some (if y = 0 then .error .divisionByZero
      else if x = int64Min ∧ y = -1 then .error (.overflow op.symbol)
      else checked (x.tmod y))
  | _ => none

def decArith (op : BinOp) (a b : Decimal) : Option (Except Fault Decimal) :=
  let checked : Option Decimal → Except Fault Decimal
    | some d => .ok d
    | none => .error (.overflow op.symbol)
  match op with
  | .add => some (checked (a.add b))
  | .sub => some (checked (a.sub b))
  | .mul => some (checked (a.mul b))
  | .div => some (if b.isZero then .error .divisionByZero else checked (a.div b))
  | .rem => some (if b.isZero then .error .divisionByZero else checked (a.rem b))
  | _ => none

def floatArith (op : BinOp) (a b : Float) : Option Float :=
  match op with
  | .add => some (a + b)
  | .sub => some (a - b)
  | .mul => some (a * b)
  | .div => some (a / b)
  | .rem => some (Binary64.rem a b)
  | _ => none

def arith (op : BinOp) (l r : Value) : Except Fault Value :=
  if op = .add ∧ (l.isText || r.isText) then .ok (.str (l.render ++ r.render))
  else
    match promote l r with
    | none => .error (badOperands op l r)
    | some (.int a b) =>
      match intArith op a b with
      | some res => res.map .int
      | none => .error (badOperands op l r)
    | some (.dec a b) =>
      match decArith op a b with
      | some res => res.map .dec
      | none => .error (badOperands op l r)
    | some (.float a b) =>
      match floatArith op a b with
      | some x => .ok (.float x)
      | none => .error (badOperands op l r)

/-- Order of two values, `none` for numbers left unordered by a NaN; a fault for values that have no
order between them. -/
def order (op : BinOp) (l r : Value) : Except Fault (Option Ordering) :=
  match promote l r with
  | some (.int a b) => .ok (some (Ord.compare a.toInt b.toInt))
  | some (.dec a b) => .ok (some (a.cmp b))
  | some (.float a b) => .ok (Binary64.compare? a b)
  | none =>
    match l, r with
    | .str a, .str b => .ok (some (charsCompare a.toList b.toList))
    | .char a, .char b => .ok (some (Ord.compare a.val b.val))
    | .str a, .char b => .ok (some (charsCompare a.toList [b]))
    | .char a, .str b => .ok (some (charsCompare [a] b.toList))
    | .bool a, .bool b => .ok (some (Ord.compare a b))
    | .date a, .date b => .ok (some (a.cmp b))
    | .dateTime a, .dateTime b => .ok (some (a.cmp b))
    | _, _ => .error (badOperands op l r)

/-- The comparison operators `< <= > >=`; unordered numbers compare false. -/
def compareWith (op : BinOp) (l r : Value) : Except Fault Value := do
  match ← order op l r with
  | none => pure (.bool false)
  | some o =>
    match op with
    | .lt => pure (.bool (o == .lt))
    | .le => pure (.bool (o != .gt))
    | .gt => pure (.bool (o == .gt))
    | .ge => pure (.bool (o != .lt))
    | _ => .error (badOperands op l r)

mutual
/-- Equality as the `==` operator sees it. -/
def equals (l r : Value) : Bool :=
  match promote l r with
  | some (.int a b) => a == b
  | some (.dec a b) => a.eqv b
  | some (.float a b) => Binary64.eq a b
  | none =>
    match l, r with
    | .str s, .char c => s.toList == [c]
    | .char c, .str s => s.toList == [c]
    | .list a, .list b => a.length == b.length && equalsItems a b
    | .set a, .set b => a.length == b.length && equalsItems a b
    | .map a, .map b => a.length == b.length && equalsEntries a b
    | _, _ => same l r

def equalsItems : List Value → List Value → Bool
  | a :: as, b :: bs => equals a b && equalsItems as bs
  | _, _ => true

def equalsEntries : List (String × Value) → List (String × Value) → Bool
  | [], _ => true
  | (k, v) :: rest, other =>
    (match lookup k other with
     | some w => equals v w
     | none => false) && equalsEntries rest other
end

/-- The membership operator: an element of a list or set by `==`, a key of a map, text inside a
string. -/
def contains (op : BinOp) (item coll : Value) : Except Fault Bool :=
  match coll with
  | .list items | .set items => .ok (items.any (equals item))
  | .map entries =>
    match item with
    | .str k => .ok (lookup k entries).isSome
    | .char c => .ok (lookup (String.singleton c) entries).isSome
    | _ => .ok false
  | .str hay =>
    match item with
    | .str needle => .ok (Text.occurs (Text.bytes needle) (Text.bytes hay))
    | .char c => .ok (Text.occurs (String.utf8EncodeChar c) (Text.bytes hay))
    | _ => .error (badOperands op item coll)
  | _ => .error (badOperands op item coll)

/-- A binary operator other than `&&` and `||` applied to two values. -/
def binary (op : BinOp) (l r : Value) : Except Fault Value :=
  match op with
  | .eq => .ok (.bool (equals l r))
  | .ne => .ok (.bool !(equals l r))
  | .mem => (contains op l r).map .bool
  | .notMem => (contains op l r).map fun b => .bool !b
  | .lt | .le | .gt | .ge => compareWith op l r
  | .and => .ok (.bool r.truthy)
  | .or => .ok (.bool r.truthy)
  | _ => arith op l r

def unary : UnOp → Value → Except Fault Value
  | .not, v => .ok (.bool !v.truthy)
  | .neg, .int n =>
    if n.toInt = int64Min then .error (.overflow "-") else .ok (.int (Int64.ofInt (-n.toInt)))
  | .neg, .float x => .ok (.float (Binary64.negate x))
  | .neg, .dec d => .ok (.dec d.negate)
  | .neg, v => .error (.invalidOperand "-" v.typeName)

def toInteger : Value → Option Int64
  | .int n => some n
  | .dec d => int64? d.trunc
  | .float x =>
    match Binary64.trunc? x with
    | some t => int64? t
    | none => none
  | _ => none

end Value

end TypedExpr
