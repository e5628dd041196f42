import TypedExpr.Decimal.Basic

/-! The parsed form of an expression. A property or method without a base applies to the current
element `#this`. -/

namespace TypedExpr

/-- Binary operators. -/
inductive BinOp where
  | add
  | sub
  | mul
  | div
  | rem
  | eq
  | ne
  | lt
  | le
  | gt
  | ge
  | and
  | or
  | mem
  | notMem
  deriving DecidableEq, Repr

/-- The symbol of a binary operator; word forms map to their symbols. -/
def BinOp.symbol : BinOp → String
  | .add => "+"
  | .sub => "-"
  | .mul => "*"
  | .div => "/"
  | .rem => "%"
  | .eq => "=="
  | .ne => "!="
  | .lt => "<"
  | .le => "<="
  | .gt => ">"
  | .ge => ">="
  | .and => "&&"
  | .or => "||"
  | .mem => "in"
  | .notMem => "not in"

/-- Unary operators. -/
inductive UnOp where
  | neg
  | not
  deriving DecidableEq, Repr

/-- The symbol of a unary operator. -/
def UnOp.symbol : UnOp → String
  | .neg => "-"
  | .not => "!"

/-- Literal values; decimals are read when the expression is parsed. -/
inductive Literal where
  | null
  | bool (b : Bool)
  | int (n : Int64)
  | dec (d : Decimal)
  | str (s : String)

/-- A parsed expression. -/
inductive Expr where
  /-- A literal. -/
  | lit (l : Literal)
  /-- A context variable `#name`. -/
  | var (name : String)
  /-- `base.name`, or `name` on the current element `#this`. -/
  | prop (base : Option Expr) (name : String)
  /-- `base[index]`. -/
  | index (base index : Expr)
  /-- `base.method(args)`, or `method(args)` on the current element `#this`. -/
  | call (base : Option Expr) (method : String) (args : List Expr)
  /-- `base.{ mapping }`: the mapping applied to every element. -/
  | project (base mapping : Expr)
  /-- `base.{? condition }`: the elements the condition holds for. -/
  | select (base condition : Expr)
  /-- A binary operation. -/
  | binary (op : BinOp) (left right : Expr)
  /-- A unary operation. -/
  | unary (op : UnOp) (operand : Expr)
  /-- `condition ? yes : no`. -/
  | cond (condition yes no : Expr)
  /-- A list literal `{a, b}`. -/
  | list (items : List Expr)
  /-- A map literal `#{k: v}`. -/
  | map (entries : List (Expr × Expr))

instance : Inhabited Expr := ⟨.lit .null⟩

end TypedExpr
