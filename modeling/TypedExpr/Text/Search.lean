/-! Searching text for text: the first position of a needle and whether it occurs, over the UTF-8
bytes of a text; and replacing every occurrence, over characters. -/

namespace TypedExpr.Text

variable {α : Type} [BEq α]

def findFrom (needle : List α) : List α → Nat → Option Nat
  | [], i => if needle.isEmpty then some i else none
  | c :: rest, i => if needle.isPrefixOf (c :: rest) then some i else findFrom needle rest (i + 1)

/-- The first position where `needle` starts in `hay`. -/
def find? (needle hay : List α) : Option Nat := findFrom needle hay 0

def occurs (needle hay : List α) : Bool := (find? needle hay).isSome

def bytes (s : String) : List UInt8 := s.toUTF8.data.toList

def charCount (bytes : List UInt8) : Nat := bytes.countP fun b => decide b.IsUTF8FirstByte

def replaceFrom (n : Char) (ns repl acc : List Char) : List Char → List Char
  | [] => acc.reverse
  | c :: rest =>
    if (n :: ns).isPrefixOf (c :: rest) then
      replaceFrom n ns repl (repl.reverse ++ acc) ((c :: rest).drop (ns.length + 1))
    else replaceFrom n ns repl (c :: acc) rest
termination_by cs => cs.length
decreasing_by all_goals (simp only [List.length_drop, List.length_cons]; omega)

def replaceAll (needle repl hay : List Char) : List Char :=
  match needle with
  | [] => repl ++ hay.flatMap (fun c => c :: repl)
  | n :: ns => replaceFrom n ns repl [] hay

end TypedExpr.Text
