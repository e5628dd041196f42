import TypedExpr.Eval.Operator
import TypedExpr.Cache.Basic
import TypedExpr.Regex.Basic
import TypedExpr.Text.Case

/-! Properties, indexing and the built-in methods of values. Every value but null answers
`toString()` and `equals(x)`; strings, lists, sets and maps also `length()`, `size()` and
`isEmpty()`, and the properties `length`, `size` and `empty`. -/

namespace TypedExpr

/-- The cache of compiled patterns. -/
abbrev Patterns := Cache Regex

namespace Patterns

/-- The compiled form of a pattern, anchored at both ends for whole-text matching; a pattern that
does not compile is a fault naming it. -/
def get (pats : Patterns) (pattern : String) (anchored : Bool) : Except Fault Regex × Patterns :=
  let source := if anchored then "^(?:" ++ pattern ++ ")$" else pattern
  let (r, pats) := pats.fetch source Regex.compile
  (r.mapError (Fault.invalidRegex pattern), pats)

end Patterns

namespace Value

def size? : Value → Option Nat
  | .str s => some s.length
  | .list items | .set items => some items.length
  | .map entries => some entries.length
  | _ => none

/-- A count as an integer value; a count beyond the largest 64-bit integer gives that integer. -/
def ofCount (n : Nat) : Value := .int (Int64.ofNat (min n (2 ^ 63 - 1)))

def noSuchMethod (v : Value) (m : String) : Fault := .noSuchMethod m v.typeName

def arity (m : String) (args : List Value) (lo hi : Nat) : Except Fault Unit :=
  let k := args.length
  if k < lo ∨ k > hi then
    .error (.invalidArguments m
      (if lo = hi then s!"expected {lo} argument(s), got {k}"
       else s!"expected {lo} to {hi} arguments, got {k}"))
  else .ok ()

def intArg (m : String) : Value → Except Fault Int64
  | .int n => .ok n
  | v => .error (.invalidArguments m s!"expected Integer, got {v.typeName}")

def textArg (m : String) : Value → Except Fault String
  | .str s => .ok s
  | .char c => .ok (String.singleton c)
  | v => .error (.invalidArguments m s!"expected String, got {v.typeName}")

def arg0 (args : List Value) : Value := args.headD .null

def arg1 (args : List Value) : Value := (args.drop 1).headD .null

def elementAt (recv : Value) (items : List Value) (i : Int64) : Except Fault Value :=
  let n := i.toInt
  match (if n < 0 then none else items[n.toNat]?) with
  | some v => .ok v
  | none => .error (.indexOutOfBounds n items.length recv.typeName)

/-- The character at an index of a string. -/
def charAt (s : String) (i : Int64) : Except Fault Value :=
  let n := i.toInt
  match (if n < 0 then none else s.toList[n.toNat]?) with
  | some c => .ok (.char c)
  | none => .error (.indexOutOfBounds n s.length "String")

/-- Reads a property of a value. -/
def property (recv : Value) (name : String) : Except Fault Value :=
  match recv with
  | .null => .error (.nullTarget s!"read property '{name}'")
  | .map entries =>
    match lookup name entries with
    | some v => .ok v
    | none =>
      if name = "length" ∨ name = "size" then .ok (ofCount entries.length)
      else if name = "empty" then .ok (.bool entries.isEmpty)
      else if name = "keys" then .ok (.set (entries.map fun (k, _) => .str k))
      else if name = "values" then .ok (.list (entries.map (·.2)))
      else .ok .null
  | _ =>
    match recv.size?, name with
    | some n, "length" | some n, "size" => .ok (ofCount n)
    | some n, "empty" => .ok (.bool (n = 0))
    | _, _ => .error (.noSuchProperty name recv.typeName)

/-- Indexes a value. -/
def index (recv idx : Value) : Except Fault Value :=
  match recv, idx with
  | .null, _ => .error (.nullTarget "index")
  | .list items, .int i | .set items, .int i => elementAt recv items i
  | .map entries, .str k => .ok ((lookup k entries).getD .null)
  | .map entries, .char c => .ok ((lookup (String.singleton c) entries).getD .null)
  | .str s, .int i => charAt s i
  | _, _ => .error (.notIndexable recv.typeName idx.typeName)

def commonMethod (recv : Value) (m : String) (args : List Value) : Option (Except Fault Value) :=
  if m = "toString" then some (do arity m args 0 0; pure (.str recv.render))
  else if m = "equals" then some (do arity m args 1 1; pure (.bool (equals recv (arg0 args))))
  else
    match recv.size? with
    | some n =>
      if m = "length" ∨ m = "size" then some (do arity m args 0 0; pure (ofCount n))
      else if m = "isEmpty" then some (do arity m args 0 0; pure (.bool (n = 0)))
      else none
    | none => none

def dropTrailingEmpty (parts : List String) : List String :=
  (go parts.reverse).reverse
where
  go : List String → List String
    | "" :: rest@(_ :: _) => go rest
    | ps => ps

def stringMethod (pats : Patterns) (s : String) (m : String) (args : List Value) :
    Except Fault Value × Patterns :=
  let plain (r : Except Fault Value) : Except Fault Value × Patterns := (r, pats)
  let len := s.length
  match m with
  | "toUpperCase" => plain do arity m args 0 0; pure (.str (Text.toUpper s))
  | "toLowerCase" => plain do arity m args 0 0; pure (.str (Text.toLower s))
  | "trim" => plain do arity m args 0 0; pure (.str (String.ofList (Text.trim s.toList)))
  | "substring" => plain do
    arity m args 1 2
    let lenI : Int := len
    let lo := (← intArg m (arg0 args)).toInt
    let hi ← if args.length ≥ 2 then (fun n => n.toInt) <$> intArg m (arg1 args) else pure lenI
    if lo < 0 ∨ hi > lenI ∨ lo > hi then
      throw (.invalidArguments m s!"range {lo}..{hi} is invalid for length {len}")
    pure (.str (String.ofList ((s.toList.drop lo.toNat).take (hi - lo).toNat)))
  | "charAt" => plain do
    arity m args 1 1
    charAt s (← intArg m (arg0 args))
  | "indexOf" => plain do
    arity m args 1 1
    let needle ← textArg m (arg0 args)
    -- the search gives a byte offset; the index is the number of characters before it
    let bytes := Text.bytes s
    pure (match Text.find? (Text.bytes needle) bytes with
      | some b => ofCount (Text.charCount (bytes.take b))
      | none => .int (-1))
  | "contains" => plain do
    arity m args 1 1
    pure (.bool (Text.occurs (Text.bytes (← textArg m (arg0 args))) (Text.bytes s)))
  | "startsWith" => plain do
    arity m args 1 1
    pure (.bool ((← textArg m (arg0 args)).toList.isPrefixOf s.toList))
  | "endsWith" => plain do
    arity m args 1 1
    pure (.bool ((← textArg m (arg0 args)).toList.isSuffixOf s.toList))
  | "replace" => plain do
    arity m args 2 2
    let src ← textArg m (arg0 args)
    let dst ← textArg m (arg1 args)
    pure (.str (String.ofList (Text.replaceAll src.toList dst.toList s.toList)))
  | "matches" =>
    match (do arity m args 1 1; textArg m (arg0 args)) with
    | .error f => (.error f, pats)
    | .ok pattern =>
      let (r, pats) := pats.get pattern true
      (r.map fun re => .bool (re.isMatch s), pats)
  | "split" =>
    match (do arity m args 1 1; textArg m (arg0 args)) with
    | .error f => (.error f, pats)
    | .ok pattern =>
      let (r, pats) := pats.get pattern false
      (r.map fun re => .list ((dropTrailingEmpty (re.split s)).map .str), pats)
  | _ => plain (.error (.noSuchMethod m "String"))

def collectionMethod (recv : Value) (items : List Value) (m : String) (args : List Value) :
    Except Fault Value :=
  match m with
  | "contains" => do
    arity m args 1 1
    pure (.bool (items.any fun v => equals v (arg0 args)))
  | "get" => do
    arity m args 1 1
    elementAt recv items (← intArg m (arg0 args))
  | "indexOf" => do
    arity m args 1 1
    pure (match items.findIdx? (fun v => equals v (arg0 args)) with
      | some i => ofCount i
      | none => .int (-1))
  | _ => .error (recv.noSuchMethod m)

def mapMethod (recv : Value) (entries : List (String × Value)) (m : String) (args : List Value) :
    Except Fault Value :=
  match m with
  | "get" => do
    arity m args 1 1
    pure ((lookup (← textArg m (arg0 args)) entries).getD .null)
  | "containsKey" => do
    arity m args 1 1
    pure (.bool (lookup (← textArg m (arg0 args)) entries).isSome)
  | "keys" | "keySet" => do
    arity m args 0 0
    pure (.set (entries.map fun (k, _) => .str k))
  | "values" => do
    arity m args 0 0
    pure (.list (entries.map (·.2)))
  | _ => .error (recv.noSuchMethod m)

def numberMethod (recv : Value) (m : String) (args : List Value) : Except Fault Value :=
  match m with
  | "intValue" | "longValue" => do
    arity m args 0 0
    match recv.toInteger with
    | some n => pure (.int n)
    | none => throw (.overflow "intValue")
  | "doubleValue" => do
    arity m args 0 0
    match recv.toFloat? with
    | some x => pure (.float x)
    | none => throw (recv.noSuchMethod m)
  | _ => .error (recv.noSuchMethod m)

/-- Calls a method on a value with evaluated arguments, threading the pattern cache. -/
def call (pats : Patterns) (recv : Value) (m : String) (args : List Value) :
    Except Fault Value × Patterns :=
  match recv with
  | .null => (.error (.nullTarget s!"call {m}()"), pats)
  | _ =>
    match commonMethod recv m args with
    | some r => (r, pats)
    | none =>
      match recv with
      | .str s => stringMethod pats s m args
      | .char c => stringMethod pats (String.singleton c) m args
      | .list items | .set items => (collectionMethod recv items m args, pats)
      | .map entries => (mapMethod recv entries m args, pats)
      | .int _ | .float _ | .dec _ => (numberMethod recv m args, pats)
      | _ => (.error (recv.noSuchMethod m), pats)

end Value

end TypedExpr
