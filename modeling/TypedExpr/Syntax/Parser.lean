import TypedExpr.Syntax.Lexer
import TypedExpr.Syntax.Expr
import TypedExpr.Decimal.Read

/-! Reading an expression from its tokens by precedence climbing. -/

namespace TypedExpr.Parser

/-- Deepest nesting the parser accepts. -/
def maxDepth : Nat := 128

/-- Tokens still to read. -/
abbrev Tokens := List (Spanned Token)

/-- A tree read from the front of `ts`, with the tokens after it. -/
structure Parsed (ts : Tokens) where
  tree : Expr
  rest : Tokens
  rest_le : rest.length ≤ ts.length

def Parsed.widen {ts us : Tokens} (p : Parsed us) (h : us.length ≤ ts.length) : Parsed ts :=
  ⟨p.tree, p.rest, Nat.le_trans p.rest_le h⟩

/-- The outcome of reading from the front of `ts`. -/
abbrev Result (ts : Tokens) := Except ParseError (Parsed ts)

def posOf (len : Nat) : Tokens → Nat
  | [] => len
  | t :: _ => t.start

def expected (len : Nat) (what : String) : Tokens → ParseError
  | [] => .unexpectedEnd len
  | t :: _ => .expectedToken what t.value.render t.start

def expect (len : Nat) (tok : Token) : (ts : Tokens) →
    Except ParseError { r : Tokens // r.length < ts.length }
  | [] => .error (.unexpectedEnd len)
  | t :: rest =>
    if t.value = tok then .ok ⟨rest, by simp⟩
    else .error (.expectedToken ("'" ++ tok.render ++ "'") t.value.render t.start)

def binaryOf : Token → Option (Nat × Option BinOp)
  | .question => some (1, none)
  | .or => some (2, some .or)
  | .and => some (3, some .and)
  | .equal => some (4, some .eq)
  | .notEqual => some (4, some .ne)
  | .less => some (5, some .lt)
  | .lessEq => some (5, some .le)
  | .greater => some (5, some .gt)
  | .greaterEq => some (5, some .ge)
  | .inWord => some (5, some .mem)
  | .plus => some (6, some .add)
  | .minus => some (6, some .sub)
  | .star => some (7, some .mul)
  | .slash => some (7, some .div)
  | .percent => some (7, some .rem)
  | _ => none

def operatorAt : (ts : Tokens) → Option (Nat × Option BinOp × { r : Tokens // r.length < ts.length })
  | [] => none
  | t :: rest =>
    match rest with
    | u :: rest' =>
      if t.value = .not ∧ u.value = .inWord then
        some (5, some .notMem, ⟨rest', Nat.lt_succ_of_lt (Nat.lt_succ_self _)⟩)
      else (binaryOf t.value).map fun (p, o) => (p, o, ⟨u :: rest', by simp⟩)
    | [] => (binaryOf t.value).map fun (p, o) => (p, o, ⟨[], by simp⟩)

def unaryAt : (ts : Tokens) → Option (UnOp × { r : Tokens // r.length < ts.length })
  | [] => none
  | t :: rest =>
    if t.value = .minus then some (.neg, ⟨rest, by simp⟩)
    else if t.value = .not then some (.not, ⟨rest, by simp⟩)
    else none

def minMagnitudeAt : (ts : Tokens) → Option { r : Tokens // r.length < ts.length }
  | [] => none
  | t :: rest =>
    if t.value = .integer (2 ^ 63) then
      match rest with
      | u :: more => if u.value = .dot ∨ u.value = .lbracket then none else some ⟨u :: more, by simp⟩
      | [] => some ⟨[], by simp⟩
    else none

def applyUnary : UnOp → Expr → Expr
  | .neg, .lit (.int n) => if n = Int64.minValue then .unary .neg (.lit (.int n)) else .lit (.int (-n))
  | .neg, .lit (.dec d) => .lit (.dec d.negate)
  | op, e => .unary op e

def memberName? : Token → Option String
  | .ident name => some name
  | t => t.keywordText?

def questionAt : (ts : Tokens) → Bool × { r : Tokens // r.length ≤ ts.length }
  | [] => (false, ⟨[], Nat.le_refl _⟩)
  | t :: rest =>
    if t.value = .question then (true, ⟨rest, by simp⟩) else (false, ⟨t :: rest, Nat.le_refl _⟩)

def tokenAt (tok : Token) : (ts : Tokens) → Option { r : Tokens // r.length < ts.length }
  | [] => none
  | t :: rest => if t.value = tok then some ⟨rest, by simp⟩ else none

def hex4? (cs : List Char) : Option Nat :=
  if cs.length = 4 ∧ cs.all fun c => c.isDigit || ('a' ≤ c ∧ c ≤ 'f') || ('A' ≤ c ∧ c ≤ 'F') then
    some (cs.foldl (fun n c =>
      16 * n + (if c.isDigit then c.toNat - '0'.toNat
                else if 'a' ≤ c ∧ c ≤ 'f' then c.toNat - 'a'.toNat + 10
                else c.toNat - 'A'.toNat + 10)) 0)
  else none

def unescapeFrom (offset : Nat) (acc : List Char) (cs : List Char) (i : Nat) :
    Except ParseError String :=
  match cs with
  | [] => .ok (String.ofList acc.reverse)
  | c :: rest =>
    if c ≠ '\\' then unescapeFrom offset (c :: acc) rest (i + c.utf8Size)
    else
      let pos := offset + i
      match rest with
      | [] => .error (.invalidEscape "\\" pos)
      | d :: more =>
        let i' := i + 1 + d.utf8Size
        if d = 'n' then unescapeFrom offset ('\n' :: acc) more i'
        else if d = 't' then unescapeFrom offset ('\t' :: acc) more i'
        else if d = 'r' then unescapeFrom offset ('\r' :: acc) more i'
        else if d = '\\' then unescapeFrom offset ('\\' :: acc) more i'
        else if d = '\'' then unescapeFrom offset ('\'' :: acc) more i'
        else if d = '"' then unescapeFrom offset ('"' :: acc) more i'
        else if d = 'u' then
          let hex := more.take 4
          match hex4? hex with
          | some n =>
            if n.isValidChar then
              unescapeFrom offset (Char.ofNat n :: acc) (more.drop 4) (i' + Lexer.width hex)
            else .error (.invalidEscape ("\\u" ++ String.ofList hex) pos)
          | none => .error (.invalidEscape ("\\u" ++ String.ofList hex) pos)
        else .error (.invalidEscape ("\\" ++ String.singleton d) pos)
termination_by cs.length
decreasing_by all_goals simp only [List.length_cons, List.length_drop]; omega

def unescape (offset : Nat) (raw : String) : Except ParseError String :=
  unescapeFrom offset [] raw.toList 0

def atom (t : Spanned Token) : Option (Except ParseError Expr) :=
  match t.value with
  | .integer n =>
    if n < 2 ^ 63 then some (.ok (.lit (.int (Int64.ofNat n))))
    else some (.error (.invalidLiteral "integer" (toString n) t.start))
  | .decimal s =>
    match Decimal.read? s with
    | some d => some (.ok (.lit (.dec d)))
    | none => some (.error (.invalidLiteral "decimal" s t.start))
  | .str raw => some ((unescape (t.start + 1) raw).map fun s => .lit (.str s))
  | .trueWord => some (.ok (.lit (.bool true)))
  | .falseWord => some (.ok (.lit (.bool false)))
  | .nullWord => some (.ok (.lit .null))
  | .var name => some (.ok (.var name))
  | _ => none

def identName? : Token → Option String
  | .ident name => some name
  | _ => none

def uncons : (ts : Tokens) → Option (Spanned Token × { r : Tokens // r.length < ts.length })
  | [] => none
  | t :: rest => some (t, ⟨rest, by simp⟩)

/-- What the parser is reading at a point of its descent. -/
inductive Goal where
  /-- An expression whose binary operators have at least level `min`. -/
  | expr (min : Nat)
  /-- Binary operators of level at least `min` after the operand `left`. -/
  | climb (left : Expr) (min : Nat)
  /-- Prefix operators and an operand; enters one level. -/
  | unary
  /-- A prefix operator with its operand, or a primary with its postfix chain. -/
  | operand
  /-- A literal, variable, root name or call, group, list or map. -/
  | primary
  /-- List items up to the closing brace, with the items so far, last first. -/
  | listItems (acc : List Expr)
  /-- Map entries up to the closing brace, with the entries so far, last first. -/
  | mapEntries (acc : List (Expr × Expr))
  /-- A call when `(` follows the name, otherwise a property. -/
  | named (base : Option Expr) (name : String)
  /-- Call arguments up to the closing parenthesis, with the arguments so far, last first. -/
  | arguments (base : Option Expr) (name : String) (acc : List Expr)
  /-- The postfix chain after `left`. -/
  | suffixes (left : Expr)
  /-- What follows a dot after `base`. -/
  | member (base : Expr)

/-- Rank of a goal: a goal moves to one of lower rank on the same tokens at the same depth. -/
def Goal.rank : Goal → Nat
  | .expr _ => 3
  | .unary => 2
  | .operand => 1
  | .listItems _ => 4
  | .mapEntries _ => 4
  | .arguments .. => 4
  | _ => 0

/-- Reads `g` from the front of `ts` at nesting depth `k`; `len` is the source length in bytes, the
position of the end of input. -/
def run (len : Nat) (g : Goal) (ts : Tokens) (k : Nat) : Result ts :=
  match g with
  | .expr min => do
    let p ← run len .unary ts k
    have := p.rest_le
    let q ← run len (.climb p.tree min) p.rest k
    return q.widen p.rest_le
  | .climb left min =>
    match operatorAt ts with
    | none => .ok ⟨left, ts, Nat.le_refl _⟩
    | some (prec, op, r) =>
      have := r.property
      if prec < min then .ok ⟨left, ts, Nat.le_refl _⟩
      else if _hk : maxDepth ≤ k then .error (.tooDeep maxDepth (posOf len ts))
      else
        match op with
        | none => do
          let yes ← run len (.expr 1) r.val (k + 1)
          let r2 ← expect len .colon yes.rest
          have := yes.rest_le
          have := r2.property
          let no ← run len (.expr 1) r2.val (k + 1)
          have := no.rest_le
          let q ← run len (.climb (.cond left yes.tree no.tree) min) no.rest (k + 1)
          return q.widen (Nat.le_trans no.rest_le (Nat.le_trans (Nat.le_of_lt r2.property)
            (Nat.le_trans yes.rest_le (Nat.le_of_lt r.property))))
        | some o => do
          let right ← run len (.expr (prec + 1)) r.val (k + 1)
          have := right.rest_le
          let q ← run len (.climb (.binary o left right.tree) min) right.rest (k + 1)
          return q.widen (Nat.le_trans right.rest_le (Nat.le_of_lt r.property))
  | .unary =>
    if hk : maxDepth ≤ k then .error (.tooDeep maxDepth (posOf len ts))
    else run len .operand ts (k + 1)
  | .operand =>
    match unaryAt ts with
    | none => do
      let p ← run len .primary ts k
      have := p.rest_le
      let q ← run len (.suffixes p.tree) p.rest k
      return q.widen p.rest_le
    | some (op, r) =>
      have := r.property
      match op, minMagnitudeAt r.val with
      | .neg, some r' =>
        .ok ⟨.lit (.int Int64.minValue), r'.val, Nat.le_of_lt (Nat.lt_trans r'.property r.property)⟩
      | _, _ => do
        let p ← run len .unary r.val k
        return ⟨applyUnary op p.tree, p.rest, Nat.le_trans p.rest_le (Nat.le_of_lt r.property)⟩
  | .primary =>
    match uncons ts with
    | none => .error (.unexpectedEnd len)
    | some (t, ⟨rest, hl⟩) =>
      match atom t with
      | some (.ok e) => .ok ⟨e, rest, Nat.le_of_lt hl⟩
      | some (.error e) => .error e
      | none =>
        match identName? t.value with
        | some name => do
          let p ← run len (.named none name) rest k
          return p.widen (Nat.le_of_lt hl)
        | none =>
          if t.value = .lparen then do
            let p ← run len (.expr 1) rest k
            let r ← expect len .rparen p.rest
            return ⟨p.tree, r.val, Nat.le_of_lt (Nat.lt_of_lt_of_le r.property
              (Nat.le_trans p.rest_le (Nat.le_of_lt hl)))⟩
          else if t.value = .lbrace then
            match tokenAt .rbrace rest with
            | some r => .ok ⟨.list [], r.val, Nat.le_of_lt (Nat.lt_trans r.property hl)⟩
            | none => do
              let p ← run len (.listItems []) rest k
              return p.widen (Nat.le_of_lt hl)
          else if t.value = .hashBrace then
            match tokenAt .rbrace rest with
            | some r => .ok ⟨.map [], r.val, Nat.le_of_lt (Nat.lt_trans r.property hl)⟩
            | none => do
              let p ← run len (.mapEntries []) rest k
              return p.widen (Nat.le_of_lt hl)
          else .error (.unexpectedToken t.value.render t.start)
  | .listItems acc => do
    let p ← run len (.expr 1) ts k
    have := p.rest_le
    match tokenAt .comma p.rest with
    | some r =>
      have := r.property
      let q ← run len (.listItems (p.tree :: acc)) r.val k
      return q.widen (Nat.le_of_lt (Nat.lt_of_lt_of_le r.property p.rest_le))
    | none =>
      match tokenAt .rbrace p.rest with
      | some r =>
        return ⟨.list (p.tree :: acc).reverse, r.val,
          Nat.le_of_lt (Nat.lt_of_lt_of_le r.property p.rest_le)⟩
      | none => .error (expected len "',' or '\x7d' in list literal" p.rest)
  | .mapEntries acc => do
    let key ← run len (.expr 1) ts k
    let r1 ← expect len .colon key.rest
    have := key.rest_le
    have := r1.property
    let value ← run len (.expr 1) r1.val k
    have := value.rest_le
    let entry := (key.tree, value.tree)
    match tokenAt .comma value.rest with
    | some r =>
      have := r.property
      let q ← run len (.mapEntries (entry :: acc)) r.val k
      return q.widen (Nat.le_of_lt (Nat.lt_of_lt_of_le r.property (Nat.le_trans value.rest_le
        (Nat.le_of_lt (Nat.lt_of_lt_of_le r1.property key.rest_le)))))
    | none =>
      match tokenAt .rbrace value.rest with
      | some r =>
        return ⟨.map (entry :: acc).reverse, r.val, Nat.le_of_lt (Nat.lt_of_lt_of_le r.property
          (Nat.le_trans value.rest_le (Nat.le_of_lt (Nat.lt_of_lt_of_le r1.property key.rest_le))))⟩
      | none => .error (expected len "',' or '\x7d' in map literal" value.rest)
  | .named base name =>
    match tokenAt .lparen ts with
    | none => .ok ⟨.prop base name, ts, Nat.le_refl _⟩
    | some r =>
      have := r.property
      match tokenAt .rparen r.val with
      | some r' => .ok ⟨.call base name [], r'.val, Nat.le_of_lt (Nat.lt_trans r'.property r.property)⟩
      | none => do
        let p ← run len (.arguments base name []) r.val k
        return p.widen (Nat.le_of_lt r.property)
  | .arguments base name acc => do
    let p ← run len (.expr 1) ts k
    have := p.rest_le
    match tokenAt .comma p.rest with
    | some r =>
      have := r.property
      let q ← run len (.arguments base name (p.tree :: acc)) r.val k
      return q.widen (Nat.le_of_lt (Nat.lt_of_lt_of_le r.property p.rest_le))
    | none =>
      match tokenAt .rparen p.rest with
      | some r =>
        return ⟨.call base name (p.tree :: acc).reverse, r.val,
          Nat.le_of_lt (Nat.lt_of_lt_of_le r.property p.rest_le)⟩
      | none => .error (expected len "',' or ')' in method arguments" p.rest)
  | .suffixes left =>
    match uncons ts with
    | none => .ok ⟨left, ts, Nat.le_refl _⟩
    | some (t, ⟨rest, hl⟩) =>
      if t.value = .dot then
        if hk : maxDepth ≤ k then .error (.tooDeep maxDepth t.start)
        else do
          let p ← run len (.member left) rest (k + 1)
          have := p.rest_le
          let q ← run len (.suffixes p.tree) p.rest (k + 1)
          return q.widen (Nat.le_trans p.rest_le (Nat.le_of_lt hl))
      else if t.value = .lbracket then
        if hk : maxDepth ≤ k then .error (.tooDeep maxDepth t.start)
        else do
          let i ← run len (.expr 1) rest (k + 1)
          let r ← expect len .rbracket i.rest
          have := i.rest_le
          have := r.property
          let q ← run len (.suffixes (.index left i.tree)) r.val (k + 1)
          return q.widen (Nat.le_of_lt (Nat.lt_of_lt_of_le r.property
            (Nat.le_trans i.rest_le (Nat.le_of_lt hl))))
      else .ok ⟨left, ts, Nat.le_refl _⟩
  | .member base =>
    match uncons ts with
    | none => .error (.unexpectedEnd len)
    | some (t, ⟨rest, hl⟩) =>
      if t.value = .lbrace then do
        let (selecting, r) := questionAt rest
        have := r.property
        let p ← run len (.expr 1) r.val k
        let r2 ← expect len .rbrace p.rest
        return ⟨if selecting then .select base p.tree else .project base p.tree, r2.val,
          Nat.le_of_lt (Nat.lt_of_lt_of_le r2.property
            (Nat.le_trans p.rest_le (Nat.le_trans r.property (Nat.le_of_lt hl))))⟩
      else
        match memberName? t.value with
        | some name => do
          let p ← run len (.named (some base) name) rest k
          return p.widen (Nat.le_of_lt hl)
        | none => .error (.expectedToken "member name after '.'" t.value.render t.start)
termination_by ts.length * 1000 + (maxDepth - k) * 8 + g.rank
decreasing_by all_goals (simp only [Goal.rank] at *; omega)

/-- Where the descent stands: the goal being read, the tokens left and the nesting depth. -/
structure Point where
  goal : Goal
  tokens : Tokens
  depth : Nat

/-- A call of the descent, from the point on the right to the point on the left. -/
inductive Descent : Point → Point → Prop
  /-- The call starts after at least one more token. -/
  | consume {p q : Point} : p.tokens.length < q.tokens.length → Descent p q
  /-- The call enters a level of nesting below the limit, on the same tokens, to a goal of lower
  rank. -/
  | enter {g g' : Goal} {ts : Tokens} {k : Nat} :
      k < maxDepth → g'.rank < g.rank → Descent ⟨g', ts, k + 1⟩ ⟨g, ts, k⟩
  /-- The call turns to a goal of lower rank at the same depth, on no more tokens. -/
  | turn {g g' : Goal} {ts ts' : Tokens} {k : Nat} :
      ts'.length ≤ ts.length → g'.rank < g.rank → Descent ⟨g', ts', k⟩ ⟨g, ts, k⟩

/-- The body of `run` at goal `g`, tokens `ts` and depth `k`, with every call it makes handed to
`call` with the proof that the call descends. -/
def step (len : Nat) (g : Goal) (ts : Tokens) (k : Nat)
    (call : (g' : Goal) → (ts' : Tokens) → (k' : Nat) → Descent ⟨g', ts', k'⟩ ⟨g, ts, k⟩ →
      Result ts') : Result ts :=
  match g with
  | .expr min => do
    let p ← call .unary ts k (.turn (Nat.le_refl _) (Nat.lt_succ_self 2))
    let q ← call (.climb p.tree min) p.rest k (.turn p.rest_le (Nat.zero_lt_succ 2))
    return q.widen p.rest_le
  | .climb left min =>
    match operatorAt ts with
    | none => .ok ⟨left, ts, Nat.le_refl _⟩
    | some (prec, op, r) =>
      if prec < min then .ok ⟨left, ts, Nat.le_refl _⟩
      else if _hk : maxDepth ≤ k then .error (.tooDeep maxDepth (posOf len ts))
      else
        match op with
        | none => do
          let yes ← call (.expr 1) r.val (k + 1) (.consume r.property)
          let r2 ← expect len .colon yes.rest
          have h2 : r2.val.length < ts.length :=
            Nat.lt_of_lt_of_le r2.property (Nat.le_trans yes.rest_le (Nat.le_of_lt r.property))
          let no ← call (.expr 1) r2.val (k + 1) (.consume h2)
          let q ← call (.climb (.cond left yes.tree no.tree) min) no.rest (k + 1)
            (.consume (Nat.lt_of_le_of_lt no.rest_le h2))
          return q.widen (Nat.le_trans no.rest_le (Nat.le_trans (Nat.le_of_lt r2.property)
            (Nat.le_trans yes.rest_le (Nat.le_of_lt r.property))))
        | some o => do
          let right ← call (.expr (prec + 1)) r.val (k + 1) (.consume r.property)
          let q ← call (.climb (.binary o left right.tree) min) right.rest (k + 1)
            (.consume (Nat.lt_of_le_of_lt right.rest_le r.property))
          return q.widen (Nat.le_trans right.rest_le (Nat.le_of_lt r.property))
  | .unary =>
    if hk : maxDepth ≤ k then .error (.tooDeep maxDepth (posOf len ts))
    else call .operand ts (k + 1) (.enter (Nat.lt_of_not_le hk) (Nat.lt_succ_self 1))
  | .operand =>
    match unaryAt ts with
    | none => do
      let p ← call .primary ts k (.turn (Nat.le_refl _) Nat.zero_lt_one)
      let q ← call (.suffixes p.tree) p.rest k (.turn p.rest_le Nat.zero_lt_one)
      return q.widen p.rest_le
    | some (op, r) =>
      match op, minMagnitudeAt r.val with
      | .neg, some r' =>
        .ok ⟨.lit (.int Int64.minValue), r'.val, Nat.le_of_lt (Nat.lt_trans r'.property r.property)⟩
      | _, _ => do
        let p ← call .unary r.val k (.consume r.property)
        return ⟨applyUnary op p.tree, p.rest, Nat.le_trans p.rest_le (Nat.le_of_lt r.property)⟩
  | .primary =>
    match uncons ts with
    | none => .error (.unexpectedEnd len)
    | some (t, ⟨rest, hl⟩) =>
      match atom t with
      | some (.ok e) => .ok ⟨e, rest, Nat.le_of_lt hl⟩
      | some (.error e) => .error e
      | none =>
        match identName? t.value with
        | some name => do
          let p ← call (.named none name) rest k (.consume hl)
          return p.widen (Nat.le_of_lt hl)
        | none =>
          if t.value = .lparen then do
            let p ← call (.expr 1) rest k (.consume hl)
            let r ← expect len .rparen p.rest
            return ⟨p.tree, r.val, Nat.le_of_lt (Nat.lt_of_lt_of_le r.property
              (Nat.le_trans p.rest_le (Nat.le_of_lt hl)))⟩
          else if t.value = .lbrace then
            match tokenAt .rbrace rest with
            | some r => .ok ⟨.list [], r.val, Nat.le_of_lt (Nat.lt_trans r.property hl)⟩
            | none => do
              let p ← call (.listItems []) rest k (.consume hl)
              return p.widen (Nat.le_of_lt hl)
          else if t.value = .hashBrace then
            match tokenAt .rbrace rest with
            | some r => .ok ⟨.map [], r.val, Nat.le_of_lt (Nat.lt_trans r.property hl)⟩
            | none => do
              let p ← call (.mapEntries []) rest k (.consume hl)
              return p.widen (Nat.le_of_lt hl)
          else .error (.unexpectedToken t.value.render t.start)
  | .listItems acc => do
    let p ← call (.expr 1) ts k (.turn (Nat.le_refl _) (Nat.lt_succ_self 3))
    match tokenAt .comma p.rest with
    | some r =>
      let q ← call (.listItems (p.tree :: acc)) r.val k
        (.consume (Nat.lt_of_lt_of_le r.property p.rest_le))
      return q.widen (Nat.le_of_lt (Nat.lt_of_lt_of_le r.property p.rest_le))
    | none =>
      match tokenAt .rbrace p.rest with
      | some r =>
        return ⟨.list (p.tree :: acc).reverse, r.val,
          Nat.le_of_lt (Nat.lt_of_lt_of_le r.property p.rest_le)⟩
      | none => .error (expected len "',' or '\x7d' in list literal" p.rest)
  | .mapEntries acc => do
    let key ← call (.expr 1) ts k (.turn (Nat.le_refl _) (Nat.lt_succ_self 3))
    let r1 ← expect len .colon key.rest
    have h1 : r1.val.length < ts.length := Nat.lt_of_lt_of_le r1.property key.rest_le
    let value ← call (.expr 1) r1.val k (.consume h1)
    let entry := (key.tree, value.tree)
    match tokenAt .comma value.rest with
    | some r =>
      let q ← call (.mapEntries (entry :: acc)) r.val k
        (.consume (Nat.lt_of_lt_of_le r.property (Nat.le_trans value.rest_le (Nat.le_of_lt h1))))
      return q.widen (Nat.le_of_lt (Nat.lt_of_lt_of_le r.property (Nat.le_trans value.rest_le
        (Nat.le_of_lt (Nat.lt_of_lt_of_le r1.property key.rest_le)))))
    | none =>
      match tokenAt .rbrace value.rest with
      | some r =>
        return ⟨.map (entry :: acc).reverse, r.val, Nat.le_of_lt (Nat.lt_of_lt_of_le r.property
          (Nat.le_trans value.rest_le (Nat.le_of_lt (Nat.lt_of_lt_of_le r1.property key.rest_le))))⟩
      | none => .error (expected len "',' or '\x7d' in map literal" value.rest)
  | .named base name =>
    match tokenAt .lparen ts with
    | none => .ok ⟨.prop base name, ts, Nat.le_refl _⟩
    | some r =>
      match tokenAt .rparen r.val with
      | some r' => .ok ⟨.call base name [], r'.val, Nat.le_of_lt (Nat.lt_trans r'.property r.property)⟩
      | none => do
        let p ← call (.arguments base name []) r.val k (.consume r.property)
        return p.widen (Nat.le_of_lt r.property)
  | .arguments base name acc => do
    let p ← call (.expr 1) ts k (.turn (Nat.le_refl _) (Nat.lt_succ_self 3))
    match tokenAt .comma p.rest with
    | some r =>
      let q ← call (.arguments base name (p.tree :: acc)) r.val k
        (.consume (Nat.lt_of_lt_of_le r.property p.rest_le))
      return q.widen (Nat.le_of_lt (Nat.lt_of_lt_of_le r.property p.rest_le))
    | none =>
      match tokenAt .rparen p.rest with
      | some r =>
        return ⟨.call base name (p.tree :: acc).reverse, r.val,
          Nat.le_of_lt (Nat.lt_of_lt_of_le r.property p.rest_le)⟩
      | none => .error (expected len "',' or ')' in method arguments" p.rest)
  | .suffixes left =>
    match uncons ts with
    | none => .ok ⟨left, ts, Nat.le_refl _⟩
    | some (t, ⟨rest, hl⟩) =>
      if t.value = .dot then
        if _hk : maxDepth ≤ k then .error (.tooDeep maxDepth t.start)
        else do
          let p ← call (.member left) rest (k + 1) (.consume hl)
          let q ← call (.suffixes p.tree) p.rest (k + 1) (.consume (Nat.lt_of_le_of_lt p.rest_le hl))
          return q.widen (Nat.le_trans p.rest_le (Nat.le_of_lt hl))
      else if t.value = .lbracket then
        if _hk : maxDepth ≤ k then .error (.tooDeep maxDepth t.start)
        else do
          let i ← call (.expr 1) rest (k + 1) (.consume hl)
          let r ← expect len .rbracket i.rest
          have h2 : r.val.length < ts.length :=
            Nat.lt_of_lt_of_le r.property (Nat.le_trans i.rest_le (Nat.le_of_lt hl))
          let q ← call (.suffixes (.index left i.tree)) r.val (k + 1) (.consume h2)
          return q.widen (Nat.le_of_lt (Nat.lt_of_lt_of_le r.property
            (Nat.le_trans i.rest_le (Nat.le_of_lt hl))))
      else .ok ⟨left, ts, Nat.le_refl _⟩
  | .member base =>
    match uncons ts with
    | none => .error (.unexpectedEnd len)
    | some (t, ⟨rest, hl⟩) =>
      if t.value = .lbrace then do
        let (selecting, r) := questionAt rest
        let p ← call (.expr 1) r.val k (.consume (Nat.lt_of_le_of_lt r.property hl))
        let r2 ← expect len .rbrace p.rest
        return ⟨if selecting then .select base p.tree else .project base p.tree, r2.val,
          Nat.le_of_lt (Nat.lt_of_lt_of_le r2.property
            (Nat.le_trans p.rest_le (Nat.le_trans r.property (Nat.le_of_lt hl))))⟩
      else
        match memberName? t.value with
        | some name => do
          let p ← call (.named (some base) name) rest k (.consume hl)
          return p.widen (Nat.le_of_lt hl)
        | none => .error (.expectedToken "member name after '.'" t.value.render t.start)

def expr (len : Nat) (ts : Tokens) (k min : Nat) : Result ts := run len (.expr min) ts k

/-- Parses a whole source text; tokens left over after the expression are an error. -/
def parse (s : String) : Except ParseError Expr :=
  match Lexer.scan s with
  | .error e => .error e
  | .ok ts =>
    let len := s.utf8ByteSize
    match expr len ts 0 1 with
    | .error e => .error e
    | .ok p =>
      match p.rest with
      | [] => .ok p.tree
      | t :: _ => .error (.unexpectedToken t.value.render t.start)

end TypedExpr.Parser
