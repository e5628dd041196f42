/-! Why the evaluation of a parsed expression failed. Every fault has a kind name and a message. -/

namespace TypedExpr

/-- A failure while evaluating. -/
inductive Fault where
  /-- A `#name` that names no variable. -/
  | undefinedVariable (name : String)
  /-- Navigation, indexing, iteration or a call on null; `action` says which. -/
  | nullTarget (action : String)
  /-- A property the value does not have. -/
  | noSuchProperty (name typeName : String)
  /-- A method the value does not have. -/
  | noSuchMethod (name typeName : String)
  /-- A method called with the wrong number or kind of arguments. -/
  | invalidArguments (method message : String)
  /-- A binary operator on operands it does not apply to. -/
  | invalidOperands (op left right : String)
  /-- A unary operator on an operand it does not apply to. -/
  | invalidOperand (op operand : String)
  /-- Exact division or remainder by zero. -/
  | divisionByZero
  /-- An integer or decimal result out of range. -/
  | overflow (op : String)
  /-- An index outside a list, set or string. -/
  | indexOutOfBounds (index : Int) (size : Nat) (typeName : String)
  /-- Indexing a value that cannot be indexed by the given kind of index. -/
  | notIndexable (typeName indexType : String)
  /-- Projection or selection over something that is not a list or set. -/
  | notIterable (typeName : String)
  /-- A pattern that is not a regular expression; `detail` is the diagnostic. -/
  | invalidRegex (pattern detail : String)
  /-- Nesting deeper than the configured limit. -/
  | recursionLimit (limit : Nat)
  deriving DecidableEq, Repr

namespace Fault

/-- Name of the kind of fault. -/
def kindName : Fault → String
  | .undefinedVariable .. => "UndefinedVariable"
  | .nullTarget .. => "NullTarget"
  | .noSuchProperty .. => "NoSuchProperty"
  | .noSuchMethod .. => "NoSuchMethod"
  | .invalidArguments .. => "InvalidArguments"
  | .invalidOperands .. => "InvalidOperands"
  | .invalidOperand .. => "InvalidOperand"
  | .divisionByZero => "DivisionByZero"
  | .overflow .. => "Overflow"
  | .indexOutOfBounds .. => "IndexOutOfBounds"
  | .notIndexable .. => "NotIndexable"
  | .notIterable .. => "NotIterable"
  | .invalidRegex .. => "InvalidRegex"
  | .recursionLimit .. => "RecursionLimit"

def message : Fault → String
  | .undefinedVariable n => s!"Variable #{n} is not defined"
  | .nullTarget a => s!"Cannot {a} on null"
  | .noSuchProperty p t => s!"Property {p} not found on {t}"
  | .noSuchMethod m t => s!"Method {m}() not found on {t}"
  | .invalidArguments m msg => s!"Invalid arguments for {m}(): {msg}"
  | .invalidOperands o l r => s!"Operator {o} cannot be applied to {l} and {r}"
  | .invalidOperand o t => s!"Operator {o} cannot be applied to {t}"
  | .divisionByZero => "Division by zero"
  | .overflow o => s!"Arithmetic overflow in {o}"
  | .indexOutOfBounds i n t => s!"Index {i} out of bounds for {t} of size {n}"
  | .notIndexable t i => s!"{t} cannot be indexed by {i}"
  | .notIterable t => s!"{t} is not a collection"
  | .invalidRegex p d => s!"Invalid regular expression '{p}': {d}"
  | .recursionLimit m => s!"Maximum evaluation depth {m} exceeded"

end Fault

end TypedExpr
