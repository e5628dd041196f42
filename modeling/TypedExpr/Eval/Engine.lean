import TypedExpr.Eval.Interp
import TypedExpr.Syntax.Parser
import TypedExpr.Value.Shape

/-! Evaluators: an expression cache, a pattern cache and a depth limit, with typed evaluation. -/

namespace TypedExpr

/-- Why evaluating an expression failed. -/
inductive Failure where
  /-- A request without its type or its expression. -/
  | invalidArgument (message : String)
  /-- The source did not parse. -/
  | compilation (source : String) (cause : ParseError)
  /-- The evaluation failed. -/
  | evaluation (source : String) (cause : Fault)
  /-- The result does not have the declared type. -/
  | typeMismatch (source : String) (expected actual : Ty)

def Failure.message : Failure → String
  | .invalidArgument m => "Invalid argument: " ++ m
  | .compilation e c => s!"Cannot compile expression \"{e}\": {c.message}"
  | .evaluation e c => s!"Error evaluating expression \"{e}\": {c.message}"
  | .typeMismatch e t a =>
    s!"Result of expression \"{e}\" has type {a.render}, which is not assignable to {t.render}"

/-- The settings of an evaluator. -/
structure Settings where
  /-- Deepest node evaluated. -/
  limit : Nat := 512
  /-- Compiled patterns kept. -/
  patternCapacity : Nat := 256
  /-- Policy of the expression cache. -/
  policy : CachePolicy := CachePolicy.unbounded

/-- An evaluator with its caches. -/
structure Evaluator where
  limit : Nat
  exprs : Cache Expr
  patterns : Patterns

namespace Evaluator

/-- A fresh evaluator. -/
def ofSettings (s : Settings) : Evaluator :=
  ⟨s.limit, Cache.empty s.policy, Cache.empty (CachePolicy.bounded s.patternCapacity)⟩

/-- The parsed form of a source, through the expression cache. -/
def compile (ev : Evaluator) (source : String) : Except Failure Expr × Evaluator :=
  let (r, c) := ev.exprs.fetch source Parser.parse
  (r.mapError (Failure.compilation source), { ev with exprs := c })

def verify (ty : Ty) (source : String) (v : Value) : Except Failure Value :=
  if v.isNull || !ty.isConstrained || ty.accepts v then .ok v
  else .error (.typeMismatch source ty v.ty)

/-- Evaluates a source against a target and checks the result against `ty`. -/
def evaluate (ev : Evaluator) (ty : Ty) (source : String) (params : List Value) (target : Value)
    (index : Option Nat) : Except Failure Value × Evaluator :=
  match ev.compile source with
  | (.error f, ev) => (.error f, ev)
  | (.ok e, ev) =>
    let (r, pats) := e.eval ev.limit (Scope.ofTarget target (.list params) index) ev.patterns
    let ev := { ev with patterns := pats }
    match r with
    | .error f => (.error (.evaluation source f), ev)
    | .ok v => (verify ty source v, ev)

def eachFrom (ty : Ty) (source : String) (params : List Value) :
    Evaluator → Nat → List Value → Except Failure (List Value) × Evaluator
  | ev, _, [] => (.ok [], ev)
  | ev, i, t :: rest =>
    match ev.evaluate ty source params t (some i) with
    | (.error f, ev) => (.error f, ev)
    | (.ok v, ev) =>
      match eachFrom ty source params ev (i + 1) rest with
      | (.ok vs, ev) => (.ok (v :: vs), ev)
      | (.error f, ev) => (.error f, ev)

def each (ev : Evaluator) (ty : Ty) (source : String) (params targets : List Value) :
    Except Failure (List Value) × Evaluator :=
  eachFrom ty source params ev 0 targets

/-- Evaluates a source and takes the result out as a shape: nothing for null. -/
def typed (ev : Evaluator) (shape : Shape) (source : String) (params : List Value)
    (target : Value) (index : Option Nat) : Except Failure (Option Value) × Evaluator :=
  match ev.evaluate shape.ty source params target index with
  | (.error f, ev) => (.error f, ev)
  | (.ok .null, ev) => (.ok none, ev)
  | (.ok v, ev) =>
    if shape.fits v then (.ok (some v), ev) else (.error (.typeMismatch source shape.ty v.ty), ev)

end Evaluator

end TypedExpr
