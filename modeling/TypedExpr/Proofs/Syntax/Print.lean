import TypedExpr.Syntax.Parser

/-! Fully parenthesised printing of expressions. Every node with children is printed inside its own
parentheses (a list, a map and a call without a base bracket themselves), negative numeric literals
as `(-magnitude)`, and strings in single quotes with `\` and `'` escaped. -/

namespace TypedExpr

@[elab_as_elim]
theorem Expr.induction {P : Expr → Prop}
    (lit : ∀ l, P (.lit l)) (var : ∀ n, P (.var n))
    (prop : ∀ b n, (∀ x ∈ b, P x) → P (.prop b n))
    (index : ∀ b i, P b → P i → P (.index b i))
    (call : ∀ b m args, (∀ x ∈ b, P x) → (∀ a ∈ args, P a) → P (.call b m args))
    (project : ∀ b m, P b → P m → P (.project b m))
    (select : ∀ b c, P b → P c → P (.select b c))
    (binary : ∀ op l r, P l → P r → P (.binary op l r))
    (unary : ∀ op e, P e → P (.unary op e))
    (cond : ∀ c a b, P c → P a → P b → P (.cond c a b))
    (list : ∀ items, (∀ a ∈ items, P a) → P (.list items))
    (map : ∀ es, (∀ e ∈ es, P e.1 ∧ P e.2) → P (.map es)) (t : Expr) : P t :=
  @Expr.rec P (fun o => ∀ x ∈ o, P x) (fun l => ∀ a ∈ l, P a)
    (fun es => ∀ e ∈ es, P e.1 ∧ P e.2) (fun e => P e.1 ∧ P e.2) lit var (fun b n hb => prop b n hb) (fun b i hb hi => index b i hb hi)
    (fun b m args hb ha => call b m args hb ha) (fun b m hb hm => project b m hb hm)
    (fun b c hb hc => select b c hb hc) (fun op l r hl hr => binary op l r hl hr)
    (fun op e he => unary op e he) (fun c a b hc ha hb => cond c a b hc ha hb)
    (fun items h => list items h) (fun es h => map es h)
    (by simp) (fun x hx => by simpa using hx) (by simp)
    (fun a as ha has => by simpa [ha] using has) (by simp)
    (fun e es he hes => by simpa [he] using hes) (fun k v hk hv => ⟨hk, hv⟩) t

mutual
/-- Height of a tree: a leaf counts one. -/
def Expr.height : Expr → Nat
  | .lit _ | .var _ | .prop none _ => 1
  | .prop (some b) _ => b.height + 1
  | .index b i => max b.height i.height + 1
  | .call none _ args => Expr.heightList args + 1
  | .call (some b) _ args => max b.height (Expr.heightList args) + 1
  | .project b m | .select b m => max b.height m.height + 1
  | .binary _ l r => max l.height r.height + 1
  | .unary _ e => e.height + 1
  | .cond c a b => max c.height (max a.height b.height) + 1
  | .list items => Expr.heightList items + 1
  | .map es => Expr.heightPairs es + 1

def Expr.heightList : List Expr → Nat
  | [] => 0
  | e :: es => max e.height (Expr.heightList es)

def Expr.heightPairs : List (Expr × Expr) → Nat
  | [] => 0
  | (k, v) :: es => max (max k.height v.height) (Expr.heightPairs es)
end

def escape (cs : List Char) : List Char :=
  cs.flatMap fun c => if c = '\\' ∨ c = '\'' then ['\\', c] else [c]

theorem escape_nil : escape [] = [] := rfl

theorem escape_cons (c : Char) (cs : List Char) :
    escape (c :: cs) = (if c = '\\' ∨ c = '\'' then ['\\', c] else [c]) ++ escape cs := by
  simp [escape]

/-- Text of a literal; a negative number is `(-magnitude)`. -/
def Literal.text : Literal → List Char
  | .null => "null".toList
  | .bool b => (toString b).toList
  | .int n =>
    if n.toInt < 0 then "(-".toList ++ Nat.toDigits 10 n.toInt.natAbs ++ [')']
    else Nat.toDigits 10 n.toInt.toNat
  | .dec d => if d.neg then "(-".toList ++ d.negate.render.toList ++ [')'] else d.render.toList
  | .str s => '\'' :: escape s.toList ++ ['\'']

def Literal.toks : Literal → List Token
  | .null => [.nullWord]
  | .bool b => [if b then .trueWord else .falseWord]
  | .int n =>
    if n.toInt < 0 then [.lparen, .minus, .integer n.toInt.natAbs, .rparen]
    else [.integer n.toInt.toNat]
  | .dec d => if d.neg then [.lparen, .minus, .decimal d.negate.render, .rparen]
    else [.decimal d.render]
  | .str s => [.str (String.ofList (escape s.toList))]

def memberToken (n : String) : Token := (Token.keyword? n).getD (.ident n)

def BinOp.toks : BinOp → List Token
  | .add => [.plus]
  | .sub => [.minus]
  | .mul => [.star]
  | .div => [.slash]
  | .rem => [.percent]
  | .eq => [.equal]
  | .ne => [.notEqual]
  | .lt => [.less]
  | .le => [.lessEq]
  | .gt => [.greater]
  | .ge => [.greaterEq]
  | .and => [.and]
  | .or => [.or]
  | .mem => [.inWord]
  | .notMem => [.not, .inWord]

def UnOp.token : UnOp → Token
  | .neg => .minus
  | .not => .not

mutual
/-- The fully parenthesised text of a tree. -/
def Expr.text : Expr → List Char
  | .lit l => l.text
  | .var n => '#' :: n.toList
  | .prop none n => n.toList
  | .prop (some b) n => '(' :: b.text ++ '.' :: n.toList ++ [')']
  | .index b i => '(' :: b.text ++ '[' :: i.text ++ [']', ')']
  | .call none m args => m.toList ++ '(' :: Expr.textList args ++ [')']
  | .call (some b) m args => '(' :: b.text ++ '.' :: m.toList ++ '(' :: Expr.textList args ++ [')', ')']
  | .project b m => '(' :: b.text ++ ".\x7b ".toList ++ m.text ++ " \x7d)".toList
  | .select b c => '(' :: b.text ++ ".\x7b? ".toList ++ c.text ++ " \x7d)".toList
  | .binary op l r => '(' :: l.text ++ ' ' :: op.symbol.toList ++ ' ' :: r.text ++ [')']
  | .unary op e => '(' :: op.symbol.toList ++ e.text ++ [')']
  | .cond c a b => '(' :: c.text ++ " ? ".toList ++ a.text ++ " : ".toList ++ b.text ++ [')']
  | .list items => '{' :: Expr.textList items ++ ['}']
  | .map es => '#' :: '{' :: Expr.textPairs es ++ ['}']

def Expr.textList : List Expr → List Char
  | [] => []
  | [e] => e.text
  | e :: es => e.text ++ ", ".toList ++ Expr.textList es

def Expr.textPairs : List (Expr × Expr) → List Char
  | [] => []
  | [(k, v)] => k.text ++ ": ".toList ++ v.text
  | (k, v) :: es => k.text ++ ": ".toList ++ v.text ++ ", ".toList ++ Expr.textPairs es
end

/-- The printed form of a tree. -/
def Expr.print (t : Expr) : String := String.ofList t.text

mutual
def Expr.toks : Expr → List Token
  | .lit l => l.toks
  | .var n => [.var n]
  | .prop none n => [.ident n]
  | .prop (some b) n => .lparen :: b.toks ++ [.dot, memberToken n, .rparen]
  | .index b i => .lparen :: b.toks ++ .lbracket :: i.toks ++ [.rbracket, .rparen]
  | .call none m args => .ident m :: .lparen :: Expr.toksList args ++ [.rparen]
  | .call (some b) m args =>
    .lparen :: b.toks ++ .dot :: memberToken m :: .lparen :: Expr.toksList args ++ [.rparen, .rparen]
  | .project b m => .lparen :: b.toks ++ .dot :: .lbrace :: m.toks ++ [.rbrace, .rparen]
  | .select b c => .lparen :: b.toks ++ .dot :: .lbrace :: .question :: c.toks ++ [.rbrace, .rparen]
  | .binary op l r => .lparen :: l.toks ++ op.toks ++ r.toks ++ [.rparen]
  | .unary op e => .lparen :: op.token :: e.toks ++ [.rparen]
  | .cond c a b => .lparen :: c.toks ++ .question :: a.toks ++ .colon :: b.toks ++ [.rparen]
  | .list items => .lbrace :: Expr.toksList items ++ [.rbrace]
  | .map es => .hashBrace :: Expr.toksPairs es ++ [.rbrace]

def Expr.toksList : List Expr → List Token
  | [] => []
  | [e] => e.toks
  | e :: es => e.toks ++ .comma :: Expr.toksList es

def Expr.toksPairs : List (Expr × Expr) → List Token
  | [] => []
  | [(k, v)] => k.toks ++ .colon :: v.toks
  | (k, v) :: es => k.toks ++ .colon :: v.toks ++ .comma :: Expr.toksPairs es
end

mutual
/-- Literals of a tree. -/
def Expr.lits : Expr → List Literal
  | .lit l => [l]
  | .var _ | .prop none _ => []
  | .prop (some b) _ => b.lits
  | .index b i | .project b i | .select b i | .binary _ b i => b.lits ++ i.lits
  | .call none _ args => Expr.litsList args
  | .call (some b) _ args => b.lits ++ Expr.litsList args
  | .unary _ e => e.lits
  | .cond c a b => c.lits ++ a.lits ++ b.lits
  | .list items => Expr.litsList items
  | .map es => Expr.litsPairs es

def Expr.litsList : List Expr → List Literal
  | [] => []
  | e :: es => e.lits ++ Expr.litsList es

def Expr.litsPairs : List (Expr × Expr) → List Literal
  | [] => []
  | (k, v) :: es => k.lits ++ v.lits ++ Expr.litsPairs es
end

def Word (n : String) : Prop :=
  ∃ c cs, n.toList = c :: cs ∧ Text.isIdStart c = true ∧ ∀ d ∈ cs, Text.isIdContinue d = true

/-- The trees the parser gives back: every name is a word, a name without a base is no reserved
word, and a prefix operator stands only where the parser would not fold it into a literal. -/
inductive Expr.Readable : Expr → Prop
  | lit (l : Literal) : Readable (.lit l)
  | var {n : String} : Word n → Readable (.var n)
  | root {n : String} : Word n → Token.keyword? n = none → Readable (.prop none n)
  | prop {b : Expr} {n : String} : Readable b → Word n → Readable (.prop (some b) n)
  | index {b i : Expr} : Readable b → Readable i → Readable (.index b i)
  | rootCall {m : String} {args : List Expr} :
      Word m → Token.keyword? m = none → (∀ a ∈ args, Readable a) → Readable (.call none m args)
  | call {b : Expr} {m : String} {args : List Expr} :
      Readable b → Word m → (∀ a ∈ args, Readable a) → Readable (.call (some b) m args)
  | project {b m : Expr} : Readable b → Readable m → Readable (.project b m)
  | select {b c : Expr} : Readable b → Readable c → Readable (.select b c)
  | binary {op : BinOp} {l r : Expr} : Readable l → Readable r → Readable (.binary op l r)
  | unary {op : UnOp} {e : Expr} :
      Readable e → Parser.applyUnary op e = .unary op e → Readable (.unary op e)
  | cond {c a b : Expr} : Readable c → Readable a → Readable b → Readable (.cond c a b)
  | list {items : List Expr} : (∀ a ∈ items, Readable a) → Readable (.list items)
  | map {es : List (Expr × Expr)} :
      (∀ e ∈ es, Readable e.1) → (∀ e ∈ es, Readable e.2) → Readable (.map es)

/-- A literal whose text reads back as a literal of its kind: a decimal shows its point, since the
digits of a decimal of scale zero read as an integer. -/
def Literal.Pointed : Literal → Prop
  | .dec d => d.scale ≠ 0
  | _ => True

example : (Expr.binary .notMem (.lit (.int (-2))) (.list [.var "a", .prop none "b"])).print =
    "((-2) not in \x7b#a, b\x7d)" := by decide

end TypedExpr
