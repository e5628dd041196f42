import TypedExpr.Regex.CharSet
import TypedExpr.Regex.Error
import TypedExpr.Text.Category
import TypedExpr.Text.Script
import TypedExpr.Text.Property
import TypedExpr.Text.Age
import TypedExpr.Text.Segment

/-! Named Unicode classes for `\p{...}` and `\pL`. Names are matched loosely: ASCII case, spaces,
`_` and `-` are ignored, and so is a leading `is`. -/

namespace TypedExpr.Regex

def looseName (name : String) : String :=
  let cs := name.toList
  let (cs, prefixed) := match cs with
    | a :: b :: rest => if a.toLower = 'i' ∧ b.toLower = 's' then (rest, true) else (cs, false)
    | _ => (cs, false)
  let kept := (cs.filter fun c => c ≠ ' ' ∧ c ≠ '_' ∧ c ≠ '-' ∧ c.toNat < 128).map Char.toLower
  if prefixed ∧ kept = ['c'] then "isc" else String.ofList kept

def namesMatch (names : List String) (n : String) : Bool := names.any fun a => looseName a == n

def CharSet.ofPacked (packed : String) : CharSet := ⟨(Text.unpackRanges packed).toList⟩

def CharSet.unassigned : CharSet :=
  let assigned := Text.categoryTables.foldl (fun s t => s.union (CharSet.ofPacked t.packed)) CharSet.none
  assigned.complement

def CharSet.category (short : String) : CharSet :=
  match Text.categoryTables.find? fun t => t.names.head? == some short with
  | some t => CharSet.ofPacked t.packed
  | .none => if short = "Cn" then CharSet.unassigned else CharSet.none

def categorySet? (n : String) : Option CharSet :=
  if n = "any" then some CharSet.all
  else if n = "assigned" then some CharSet.unassigned.complement
  else if n = "ascii" then some ⟨[(0, 0x7F)]⟩
  else
    match Text.categoryTables.find? fun t => namesMatch t.names n with
    | some t => some (CharSet.ofPacked t.packed)
    | none =>
      if namesMatch Text.unassignedNames n then some CharSet.unassigned
      else
        (Text.categoryGroups.find? fun (names, _) => namesMatch names n).map fun (_, members) =>
          members.foldl (fun s m => s.union (CharSet.category m)) CharSet.none

def scriptSet? (n : String) (extended : Bool) : Option (Option CharSet) :=
  match Text.scriptTables.find? fun t => namesMatch t.names n with
  | some t => some (some (CharSet.ofPacked (if extended then t.extended else t.packed)))
  | none => if namesMatch Text.unknownScriptNames n then some none else none

def binarySet? (n : String) : Option CharSet :=
  (Text.propertyTables.find? fun t => namesMatch t.names n).map fun t => CharSet.ofPacked t.packed

def ageSet? (v : String) : Option CharSet :=
  let named (t : Text.AgeTable) : Bool := namesMatch [t.version, "V" ++ t.version.replace "." "_"] v
  (Text.ageTables.findIdx? named).map fun i =>
    (Text.ageTables.take (i + 1)).foldl (fun s t => s.union (CharSet.ofPacked t.packed)) CharSet.none

def breakValueSet? (p : Text.BreakProperty) (v : String) : Option CharSet :=
  (p.values.find? fun (names, _) => namesMatch names v).map fun (_, packed) => CharSet.ofPacked packed

def isPropertyName (n : String) : Bool := namesMatch Text.propertyNames n

def namedClass (name : String) : Except ErrorKind CharSet :=
  let n := looseName name
  if n ≠ "cf" ∧ n ≠ "sc" ∧ n ≠ "lc" ∧ isPropertyName n then
    match binarySet? n with
    | some s => .ok s
    | none => .error .unicodePropertyNotFound
  else
    match categorySet? n with
    | some s => .ok s
    | none =>
      match scriptSet? n false with
      | some (some s) => .ok s
      | some none => .error .unicodePropertyValueNotFound
      | none => .error .unicodePropertyNotFound

def namedValueClass (name value : String) : Except ErrorKind CharSet :=
  let n := looseName name
  let v := looseName value
  let fromScript (found : Option (Option CharSet)) : Except ErrorKind CharSet :=
    match found with
    | some (some s) => .ok s
    | _ => .error .unicodePropertyValueNotFound
  if !isPropertyName n then .error .unicodePropertyNotFound
  else if namesMatch ["gc", "General_Category"] n then
    match categorySet? v with
    | some s => .ok s
    | none => .error .unicodePropertyValueNotFound
  else if namesMatch ["sc", "Script"] n then fromScript (scriptSet? v false)
  else if namesMatch ["scx", "Script_Extensions"] n then fromScript (scriptSet? v true)
  else if namesMatch ["age"] n then
    match ageSet? v with
    | some s => .ok s
    | none => .error .unicodePropertyValueNotFound
  else
    match Text.breakProperties.find? fun p => namesMatch p.names n with
    | some p =>
      match breakValueSet? p v with
      | some s => .ok s
      | none => .error .unicodePropertyValueNotFound
    | none => .error .unicodePropertyValueNotFound

end TypedExpr.Regex
