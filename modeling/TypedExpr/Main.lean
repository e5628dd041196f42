import TypedExpr.Eval.Engine
import TypedExpr.Json.Read

/-! The command line: `eval` evaluates an expression against a JSON target and prints the result's
JSON view; `check` parses an expression. -/

namespace TypedExpr.Cli

/-- Options of `eval`. -/
structure EvalArgs where
  expression : String
  type : String := "Any"
  params : List String := []
  index : Option Nat := none
  file : Option String := none
  pretty : Bool := false
  quiet : Bool := false

/-- A command. -/
inductive Command where
  | eval (a : EvalArgs)
  | check (expression : String) (quiet : Bool)

def inlineValue (arg name : String) : Option String :=
  if arg.startsWith ("--" ++ name ++ "=") then some (String.ofList (arg.toList.drop (name.length + 3)))
  else none

def evalOptions (a : EvalArgs) : List String → Except String EvalArgs
  | [] => .ok a
  | arg :: rest =>
    if arg = "-p" ∨ arg = "--pretty" then evalOptions { a with pretty := true } rest
    else if arg = "-q" ∨ arg = "--quiet" then evalOptions { a with quiet := true } rest
    else if let some v := inlineValue arg "type" then evalOptions { a with type := v } rest
    else if let some v := inlineValue arg "param" then evalOptions { a with params := a.params ++ [v] } rest
    else if let some v := inlineValue arg "file" then evalOptions { a with file := some v } rest
    else if let some v := inlineValue arg "index" then
      match v.toNat? with
      | some n => evalOptions { a with index := some n } rest
      | none => .error s!"invalid value '{v}' for '--index <INDEX>'"
    else
      match rest with
      | v :: more =>
        if arg = "-t" ∨ arg = "--type" then evalOptions { a with type := v } more
        else if arg = "--param" then evalOptions { a with params := a.params ++ [v] } more
        else if arg = "-f" ∨ arg = "--file" then evalOptions { a with file := some v } more
        else if arg = "-i" ∨ arg = "--index" then
          match v.toNat? with
          | some n => evalOptions { a with index := some n } more
          | none => .error s!"invalid value '{v}' for '--index <INDEX>'"
        else .error s!"unexpected argument '{arg}' found"
      | [] => .error s!"unexpected argument '{arg}' found"

def parseArgs : List String → Except String Command
  | "eval" :: expr :: rest => (evalOptions { expression := expr } rest).map .eval
  | "check" :: expr :: rest =>
    match rest with
    | [] => .ok (.check expr false)
    | ["-q"] | ["--quiet"] => .ok (.check expr true)
    | arg :: _ => .error s!"unexpected argument '{arg}' found"
  | _ => .error "Usage: eval <EXPRESSION> [OPTIONS] | check <EXPRESSION> [OPTIONS]"

def report (f : Failure) : String :=
  match f with
  | .compilation _ c => f.message ++ ": " ++ c.message
  | .evaluation _ c => f.message ++ ": " ++ c.message
  | _ => f.message

def targetOf (text : String) : Except String Value :=
  if (Text.trim text.toList).isEmpty then .ok .null
  else
    match Json.read? text with
    | some j => .ok (Value.ofJson j)
    | none => .error "parsing JSON target"

def paramsOf : List String → Except String (List Value)
  | [] => .ok []
  | raw :: rest =>
    match Json.read? raw with
    | some j => (paramsOf rest).map (Value.ofJson j :: ·)
    | none => .error s!"parsing parameter {raw}"

def runEval (a : EvalArgs) (targetText : String) : Except String String := do
  let ty ← match Ty.read? a.type with
    | some t => pure t
    | none => throw (Ty.unknownMessage a.type)
  let params ← paramsOf a.params
  let target ← targetOf targetText
  match (Evaluator.ofSettings {}).evaluate ty a.expression params target a.index with
  | (.ok v, _) => pure (if a.pretty then v.toJson.pretty 0 else v.toJson.render)
  | (.error f, _) => throw (report f)

def runCheck (expression : String) : Option String :=
  match (Evaluator.ofSettings {}).compile expression with
  | (.ok _, _) => none
  | (.error f, _) => some (report f)

end TypedExpr.Cli

open TypedExpr TypedExpr.Cli in
def main (args : List String) : IO UInt32 := do
  match parseArgs args with
  | .error m =>
    IO.eprintln ("error: " ++ m)
    return 2
  | .ok (.check expr quiet) =>
    match runCheck expr with
    | some e =>
      IO.eprintln ("Error: " ++ e)
      return 1
    | none =>
      if !quiet then IO.println ("OK: " ++ expr)
      return 0
  | .ok (.eval a) =>
    match Ty.read? a.type with
    | none =>
      IO.eprintln ("Error: " ++ Ty.unknownMessage a.type)
      return 1
    | some ty =>
      let text ← match a.file with
        | some f => IO.FS.readFile f
        | none => do (← IO.getStdin).readToEnd
      if !a.quiet then IO.eprintln s!"Evaluating: {a.expression} as {ty.render}"
      match runEval a text with
      | .ok out =>
        IO.println out
        return 0
      | .error e =>
        IO.eprintln ("Error: " ++ e)
        return 1
