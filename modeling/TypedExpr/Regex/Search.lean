import TypedExpr.Regex.Program
import TypedExpr.Text.Ranges

/-! Running a program over a text: a Pike machine. The threads at a position are kept in order of
preference, each with the position where its match began. -/

namespace TypedExpr.Regex

/-- A thread: the instruction it is at and where its match began. -/
structure Thread where
  pc : Nat
  start : Nat

def wordAt (text : Array Char) (ascii : Bool) (i : Nat) : Bool :=
  match text[i]? with
  | some c => if ascii then CharSet.asciiWord.mem c else Text.isWord c
  | none => false

def Look.holds (text : Array Char) (i : Nat) : Look → Bool
  | .start => i == 0
  | .finish => i == text.size
  | .startLine => i == 0 || text[i - 1]? == some '\n'
  | .finishLine => i == text.size || text[i]? == some '\n'
  | .startLineCrlf =>
    i == 0 || text[i - 1]? == some '\n' ||
      (text[i - 1]? == some '\r' && text[i]? != some '\n')
  | .finishLineCrlf =>
    i == text.size || text[i]? == some '\r' ||
      (text[i]? == some '\n' && (i == 0 || text[i - 1]? != some '\r'))
  | .wordBoundary a => (i > 0 && wordAt text a (i - 1)) != wordAt text a i
  | .notWordBoundary a => (i > 0 && wordAt text a (i - 1)) == wordAt text a i
  | .wordStart a => !(i > 0 && wordAt text a (i - 1)) && wordAt text a i
  | .wordEnd a => (i > 0 && wordAt text a (i - 1)) && !wordAt text a i
  | .wordStartHalf a => !(i > 0 && wordAt text a (i - 1))
  | .wordEndHalf a => !wordAt text a i

/-- Threads ready at a position, and the instructions already reached there. -/
structure Threads where
  list : Array Thread
  seen : Array Bool

def Threads.empty (n : Nat) : Threads := ⟨#[], Array.replicate n false⟩

def follow (prog : Array Inst) (text : Array Char) (i : Nat) (start : Nat) :
    Nat → Nat → Threads → Threads
  | 0, _, ts => ts
  | fuel + 1, pc, ts =>
    if ts.seen[pc]?.getD true then ts
    else
      let ts := { ts with seen := ts.seen.set! pc true }
      match prog[pc]? with
      | some (.jump t) => follow prog text i start fuel t ts
      | some (.split a b) => follow prog text i start fuel b (follow prog text i start fuel a ts)
      | some (.look l) => if l.holds text i then follow prog text i start fuel (pc + 1) ts else ts
      | some (.chars _) | some .accept => { ts with list := ts.list.push ⟨pc, start⟩ }
      | none => ts

def advance (prog : Array Inst) (text : Array Char) (i : Nat) (threads : List Thread) :
    List Thread × Option (Nat × Nat) :=
  match threads with
  | [] => ([], none)
  | t :: rest =>
    match prog[t.pc]? with
    | some .accept => ([], some (t.start, i))
    | some (.chars set) =>
      let (moved, found) := advance prog text i rest
      match text[i]? with
      | some c => if Text.inRanges set c.toNat then (⟨t.pc + 1, t.start⟩ :: moved, found)
                  else (moved, found)
      | none => (moved, found)
    | _ => advance prog text i rest

def runFrom (prog : Array Inst) (text : Array Char) : Nat → Nat → Threads → Option (Nat × Nat) →
    Option (Nat × Nat)
  | 0, _, _, best => best
  | fuel + 1, i, ts, best =>
    let (moved, found) := advance prog text i ts.list.toList
    let best := found.or best
    if i ≥ text.size then best
    else
      let budget := prog.size + 1
      let next := moved.foldl (fun acc t => follow prog text (i + 1) t.start budget t.pc acc)
        (Threads.empty prog.size)
      let next := if best.isNone then follow prog text (i + 1) (i + 1) budget 0 next else next
      if next.list.isEmpty ∧ best.isSome then best
      else runFrom prog text fuel (i + 1) next best

/-- The leftmost preferred match starting at or after position `origin`, as start and end. -/
def Program.find? (p : Program) (text : Array Char) (origin : Nat) : Option (Nat × Nat) :=
  if origin > text.size then none
  else
    let ts := follow p.insts text origin origin (p.insts.size + 1) 0 (Threads.empty p.insts.size)
    runFrom p.insts text (text.size - origin + 1) origin ts none

def Program.matchesFrom (p : Program) (text : Array Char) : Nat → Nat → Option Nat → List (Nat × Nat)
  | 0, _, _ => []
  | fuel + 1, origin, lastEnd =>
    let found := match p.find? text origin with
      | some (s, e) =>
        if s = e ∧ lastEnd = some e then p.find? text (origin + 1) else some (s, e)
      | none => none
    match found with
    | some (s, e) => (s, e) :: p.matchesFrom text fuel e (some e)
    | none => []

def Program.matches (p : Program) (text : Array Char) : List (Nat × Nat) :=
  p.matchesFrom text (2 * text.size + 2) 0 none

def Program.split (p : Program) (text : Array Char) : List String :=
  let (pieces, last) := (p.matches text).foldl
    (fun (acc : List String × Nat) (s, e) =>
      (String.ofList ((text.extract acc.2 s).toList) :: acc.1, e)) ([], 0)
  (String.ofList ((text.extract last text.size).toList) :: pieces).reverse

def Program.isMatch (p : Program) (text : Array Char) : Bool := (p.find? text 0).isSome

end TypedExpr.Regex
