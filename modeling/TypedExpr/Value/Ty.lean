import TypedExpr.Text.Blank

/-! Type descriptors for values: the scalar kinds, `Number` for any numeric kind, `Any`, and lists,
sets and maps with an element type. -/

namespace TypedExpr

/-- A type descriptor. -/
inductive Ty where
  | any
  | bool
  | int
  | float
  | dec
  | num
  | str
  | char
  | date
  | dateTime
  | list (elem : Ty)
  | set (elem : Ty)
  | map (elem : Ty)
  deriving DecidableEq, Repr, Inhabited

namespace Ty

def isConstrained : Ty → Bool
  | .any => false
  | _ => true

/-- Text of a descriptor: `Integer`, `List<Map<String>>`. -/
def render : Ty → String
  | .any => "Any"
  | .bool => "Boolean"
  | .int => "Integer"
  | .float => "Float"
  | .dec => "Decimal"
  | .num => "Number"
  | .str => "String"
  | .char => "Char"
  | .date => "Date"
  | .dateTime => "DateTime"
  | .list e => "List<" ++ e.render ++ ">"
  | .set e => "Set<" ++ e.render ++ ">"
  | .map e => "Map<" ++ e.render ++ ">"

def ofName? : String → Option Ty
  | "Any" | "Object" => some .any
  | "Boolean" | "Bool" => some .bool
  | "Integer" | "Int" | "Long" => some .int
  | "Float" | "Double" => some .float
  | "Decimal" => some .dec
  | "Number" => some .num
  | "String" => some .str
  | "Char" | "Character" => some .char
  | "Date" => some .date
  | "DateTime" => some .dateTime
  | "List" | "Array" => some (.list .any)
  | "Set" => some (.set .any)
  | "Map" => some (.map .any)
  | _ => none

def container? (name : String) (elem : Ty) : Option Ty :=
  match name with
  | "List" | "Array" => some (.list elem)
  | "Set" => some (.set elem)
  | "Map" => some (.map elem)
  | _ => none

theorem length_dropLast_drop_lt {name : List Char} {i : Nat} {c : Char}
    (hl : ((name.drop (i + 1)).getLast? == some c) = true) :
    (name.drop (i + 1)).dropLast.length < name.length := by
  have hne : 0 < (name.drop (i + 1)).length := by
    cases hr : name.drop (i + 1) with
    | nil => simp [hr] at hl
    | cons => simp
  simp only [List.length_dropLast, List.length_drop] at hne ⊢
  omega

def splitContainer (name : List Char) :
    Option (Option (List Char × { r : List Char // r.length < name.length })) :=
  match name.findIdx? (· == '<') with
  | some i =>
    let rest := name.drop (i + 1)
    if hl : rest.getLast? == some '>' then
      some (some (name.take i, ⟨rest.dropLast, length_dropLast_drop_lt hl⟩))
    else some none
  | none => none

def readChars (cs : List Char) : Option Ty :=
  match splitContainer (Text.trim cs) with
  | some (some (head, ⟨inner, h⟩)) =>
    have := Text.length_trim_le cs
    have := h
    match readChars inner with
    | some elem => container? (String.ofList (Text.trim head)) elem
    | none => none
  | some none => none
  | none => ofName? (String.ofList (Text.trim cs))
termination_by cs.length

/-- Reads a descriptor from text. -/
def read? (s : String) : Option Ty := readChars s.toList

def unknownMessage (s : String) : String :=
  "Unknown type name '" ++ String.ofList (Text.trim s.toList) ++ "'"

end Ty

end TypedExpr
