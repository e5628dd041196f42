import TypedExpr.Eval.Methods
import TypedExpr.Syntax.Expr

/-! Evaluating a parsed expression against a scope: the target, the parameters, the index of the
target in a batch, the root value, and the current element `#this` (the root, or the element a
projection or selection is looking at). -/

namespace TypedExpr

/-- What an expression sees. -/
structure Scope where
  target : Value
  params : Value
  index : Option Nat
  root : Value
  this : Value

namespace Scope

/-- The scope of a target: it is both the root and the current element. -/
def ofTarget (target params : Value) (index : Option Nat) : Scope :=
  ⟨target, params, index, target, target⟩

/-- The value of a variable `#name`. -/
def var? (sc : Scope) (name : String) : Option Value :=
  match name with
  | "this" => some sc.this
  | "root" => some sc.root
  | "target" => some sc.target
  | "param" => some sc.params
  | "index" =>
    some (match sc.index with
      | some i => if i < 2 ^ 63 then .int (Int64.ofNat i) else .null
      | none => .null)
  | _ => none

end Scope

/-- The value of a literal. -/
def Literal.value : Literal → Value
  | .null => .null
  | .bool b => .bool b
  | .int n => .int n
  | .dec d => .dec d
  | .str s => .str s

abbrev Eval := ExceptT Fault (StateM Patterns)

namespace Eval

def withPatterns (f : Patterns → Except Fault Value × Patterns) : Eval Value := do
  let (r, pats) := f (← get)
  set pats
  match r with
  | .ok v => pure v
  | .error e => throw e

theorem withPatterns_run (f : Patterns → Except Fault Value × Patterns) (s : Patterns) :
    (withPatterns f).run.run s = f s := by
  show (match (f s).1 with | .ok v => (pure v : Eval Value) | .error e => throw e).run.run
    (f s).2 = f s
  rcases f s with ⟨_ | v, p⟩ <;> rfl

def lift {α : Type} (r : Except Fault α) : Eval α :=
  match r with
  | .ok a => pure a
  | .error e => throw e

def elements : Value → Except Fault (List Value)
  | .null => .error (.nullTarget "iterate")
  | .list items | .set items => .ok items
  | v => .error (.notIterable v.typeName)

mutual
def expr (limit : Nat) (sc : Scope) (depth : Nat) (e : Expr) : Eval Value :=
  if depth > limit then throw (.recursionLimit limit) else
  match e with
  | .lit l => pure l.value
  | .var name =>
    match sc.var? name with
    | some v => pure v
    | none => throw (.undefinedVariable name)
  | .prop base name => do
    let recv ← receiver limit sc (depth + 1) base
    lift (recv.property name)
  | .index base idx => do
    let recv ← expr limit sc (depth + 1) base
    let i ← expr limit sc (depth + 1) idx
    lift (recv.index i)
  | .call base m args => do
    let recv ← receiver limit sc (depth + 1) base
    let vals ← exprs limit sc (depth + 1) args
    withPatterns fun pats => Value.call pats recv m vals
  | .project base mapping => do
    let items ← lift (elements (← expr limit sc (depth + 1) base))
    let mapped ← items.mapM fun item => expr limit { sc with this := item } (depth + 1) mapping
    pure (.list mapped)
  | .select base condition => do
    let coll ← expr limit sc (depth + 1) base
    let items ← lift (elements coll)
    let kept ← items.filterM fun item => do
      pure (← expr limit { sc with this := item } (depth + 1) condition).truthy
    pure (match coll with
      | .set _ => .set kept
      | _ => .list kept)
  | .binary op l r => do
    let left ← expr limit sc (depth + 1) l
    if op = .and ∧ !left.truthy then pure (.bool false)
    else if op = .or ∧ left.truthy then pure (.bool true)
    else
      let right ← expr limit sc (depth + 1) r
      lift (Value.binary op left right)
  | .unary op operand => do
    lift (Value.unary op (← expr limit sc (depth + 1) operand))
  | .cond c yes no => do
    if (← expr limit sc (depth + 1) c).truthy then expr limit sc (depth + 1) yes
    else expr limit sc (depth + 1) no
  | .list items => do pure (.list (← exprs limit sc (depth + 1) items))
  | .map entries => do pure (.map (← pairs limit sc (depth + 1) [] entries))

def receiver (limit : Nat) (sc : Scope) (depth : Nat) : Option Expr → Eval Value
  | some b => expr limit sc depth b
  | none => pure sc.this

/-- Evaluates expressions left to right. -/
def exprs (limit : Nat) (sc : Scope) (depth : Nat) : List Expr → Eval (List Value)
  | [] => pure []
  | e :: rest => do
    let v ← expr limit sc depth e
    let vs ← exprs limit sc depth rest
    pure (v :: vs)

def pairs (limit : Nat) (sc : Scope) (depth : Nat) (acc : List (String × Value)) :
    List (Expr × Expr) → Eval (List (String × Value))
  | [] => pure acc
  | (k, v) :: rest => do
    let key := match ← expr limit sc depth k with
      | .str s => s
      | other => other.render
    let val ← expr limit sc depth v
    pairs limit sc depth (Value.insertAt key val acc) rest
end

end Eval

/-- Evaluates an expression against a scope with a depth limit, threading the pattern cache. -/
def Expr.eval (e : Expr) (limit : Nat) (sc : Scope) (pats : Patterns) : Except Fault Value × Patterns :=
  (Eval.expr limit sc 0 e).run.run pats

end TypedExpr
