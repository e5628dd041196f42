import TypedExpr.Regex.Node

/-! Patterns compiled to programs for a Thompson machine: an array of instructions that consume a
character of a set, test a zero-width assertion, jump, split into two ways (the first preferred), or
accept. -/

namespace TypedExpr.Regex

/-- An instruction; the next instruction follows unless it jumps or splits. -/
inductive Inst where
  /-- Consumes one character of the set (sorted, disjoint code point ranges). -/
  | chars (set : Array (Nat × Nat))
  /-- Continues only where the assertion holds. -/
  | look (l : Look)
  /-- Continues at an address. -/
  | jump (target : Nat)
  /-- Continues at both addresses, the first preferred. -/
  | split (first second : Nat)
  /-- A match ends here. -/
  | accept
  deriving Inhabited

mutual
def Node.minLen : Node → Option Nat
  | .empty => some 0
  | .chars s => if s.ranges.isEmpty then none else some 1
  | .look _ => some 0
  | .repetition min _ _ body => (body.minLen).map (· * min)
  | .cat parts => Node.minLenCat parts
  | .alt alts => Node.minLenAlt alts

def Node.minLenCat : List Node → Option Nat
  | [] => some 0
  | n :: rest =>
    match n.minLen, Node.minLenCat rest with
    | some a, some b => some (a + b)
    | _, _ => none

def Node.minLenAlt : List Node → Option Nat
  | [] => none
  | n :: rest =>
    match n.minLen, Node.minLenAlt rest with
    | some a, some b => some (Nat.min a b)
    | some a, none => some a
    | none, b => b
end

def preferring (greedy : Bool) (more done : Nat) : Inst :=
  if greedy then .split more done else .split done more

mutual
def Node.emit : Node → Nat → List Inst
  | .empty, _ => []
  | .chars s, _ => [.chars s.ranges.toArray]
  | .look l, _ => [.look l]
  | .cat parts, pc => Node.emitCat parts pc
  | .alt alts, pc => Node.emitAlt alts pc
  | .repetition min max greedy body, pc =>
    let width := (body.emit 0).length
    let copies (k addr : Nat) : List Inst :=
      (List.range k).flatMap fun i => body.emit (addr + i * width)
    match max with
    | some hi =>
      let prefixCode := copies min pc
      let optional := hi - min
      let stop := pc + prefixCode.length + optional * (width + 1)
      prefixCode ++ (List.range optional).flatMap fun i =>
        let addr := pc + prefixCode.length + i * (width + 1)
        preferring greedy (addr + 1) stop :: body.emit (addr + 1)
    | none =>
      if min = 0 then
        if (body.minLen.getD 0) > 0 then
          let stop := pc + width + 2
          preferring greedy (pc + 1) stop :: body.emit (pc + 1) ++ [.jump pc]
        else
          let stop := pc + width + 2
          preferring greedy (pc + 1) stop :: body.emit (pc + 1) ++ [preferring greedy (pc + 1) stop]
      else
        let prefixCode := copies (min - 1) pc
        let addr := pc + prefixCode.length
        prefixCode ++ body.emit addr ++ [preferring greedy addr (addr + width + 1)]

def Node.emitCat : List Node → Nat → List Inst
  | [], _ => []
  | n :: rest, pc =>
    let code := n.emit pc
    code ++ Node.emitCat rest (pc + code.length)

def Node.emitAlt : List Node → Nat → List Inst
  | [], _ => []
  | [n], pc => n.emit pc
  | n :: rest, pc =>
    let code := n.emit (pc + 1)
    let restAt := pc + 1 + code.length + 1
    let restCode := Node.emitAlt rest restAt
    .split (pc + 1) restAt :: code ++ .jump (restAt + restCode.length) :: restCode
end

mutual
def Node.codeSize : Node → Nat
  | .empty => 0
  | .chars _ => 1
  | .look _ => 1
  | .cat parts => Node.codeSizeCat parts
  | .alt alts => Node.codeSizeAlt alts
  | .repetition min max _ body =>
    match max with
    | some hi => min * body.codeSize + (hi - min) * (body.codeSize + 1)
    | none => (min + 1) * body.codeSize + 2

def Node.codeSizeCat : List Node → Nat
  | [] => 0
  | n :: rest => n.codeSize + Node.codeSizeCat rest

def Node.codeSizeAlt : List Node → Nat
  | [] => 0
  | n :: rest => (n.codeSize + 2) + Node.codeSizeAlt rest
end

/-- A compiled pattern. -/
structure Program where
  insts : Array Inst
  deriving Inhabited

def Program.ofNode (n : Node) : Program := ⟨(n.emit 0 ++ [Inst.accept]).toArray⟩

end TypedExpr.Regex
