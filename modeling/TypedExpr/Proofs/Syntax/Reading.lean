import TypedExpr.Syntax.Parser

/-! The parser read through what it gives back. `out` drops the proof that the tokens after a tree
are a suffix of the input. -/

namespace TypedExpr.Parser

def out {ts : Tokens} (r : Result ts) : Except ParseError (Expr × Tokens) :=
  r.map fun p => (p.tree, p.rest)

def after? (tok : Token) (ts : Tokens) : Option Tokens :=
  (tokenAt tok ts).map (·.val)

theorem after?_cons (tok : Token) (t : Spanned Token) (rest : Tokens) :
    after? tok (t :: rest) = if t.value = tok then some rest else none := by
  simp only [after?, tokenAt]
  split <;> rfl

@[simp] theorem after?_nil (tok : Token) : after? tok [] = none := rfl

theorem bind_eq_ok {α β ε : Type} {x : Except ε α} {f : α → Except ε β} {b : β} :
    x.bind f = .ok b ↔ ∃ a, x = .ok a ∧ f a = .ok b := by
  cases x with
  | error e => simp [Except.bind]
  | ok a => simp [Except.bind]

theorem out_bind {ts us : Tokens} (x : Result ts) (f : Parsed ts → Result us)
    (F : Expr × Tokens → Except ParseError (Expr × Tokens))
    (hf : ∀ p, out (f p) = F (p.tree, p.rest)) : out (x >>= f) = (out x).bind F := by
  cases x with
  | error e => rfl
  | ok p => exact hf p

theorem out_keep {ts us : Tokens} (x : Result us) (g : Parsed us → Parsed ts)
    (hg : ∀ q, (g q).tree = q.tree ∧ (g q).rest = q.rest) :
    out (x >>= fun q => pure (g q)) = out x := by
  cases x with
  | error e => rfl
  | ok q => simp [out, bind, Except.bind, pure, Except.pure, Except.map, (hg q).1, (hg q).2]

theorem out_bind_val {P : Tokens → Prop} {us : Tokens} (y : Except ParseError { r : Tokens // P r })
    (g : { r : Tokens // P r } → Result us) (G : Tokens → Except ParseError (Expr × Tokens))
    (hg : ∀ r, out (g r) = G r.val) : out (y >>= g) = (y.map (·.val)).bind G := by
  cases y with
  | error e => rfl
  | ok r => exact hg r

theorem expect_val {len : Nat} {tok : Token} {t : Spanned Token} (h : t.value = tok) (rest : Tokens) :
    (expect len tok (t :: rest)).map (·.val) = .ok rest := by
  simp [expect, h, Except.map]

variable (len : Nat)

section Climb
variable (left : Expr) (min : Nat) {ts : Tokens} (k : Nat)

theorem out_expr :
    out (run len (.expr min) ts k) =
      (out (run len .unary ts k)).bind fun p => out (run len (.climb p.1 min) p.2 k) := by
  conv => lhs; rw [run]
  exact out_bind _ _ _ fun p => out_keep _ _ fun q => ⟨rfl, rfl⟩

theorem out_climb_none (h : operatorAt ts = none) :
    out (run len (.climb left min) ts k) = .ok (left, ts) := by
  conv => lhs; rw [run]
  split
  · rfl
  · rename_i hs
    rw [h] at hs
    cases hs

variable {prec : Nat} {op : Option BinOp} {r : { r : Tokens // r.length < ts.length }}

theorem out_climb_low (h : operatorAt ts = some (prec, op, r)) (hp : prec < min) :
    out (run len (.climb left min) ts k) = .ok (left, ts) := by
  conv => lhs; rw [run]
  split
  · rfl
  · rename_i hs
    rw [h, Option.some.injEq, Prod.mk.injEq, Prod.mk.injEq] at hs
    obtain ⟨rfl, rfl, rfl⟩ := hs
    simp only [if_pos hp]
    rfl

theorem out_climb_deep (h : operatorAt ts = some (prec, op, r)) (hp : min ≤ prec)
    (hk : maxDepth ≤ k) :
    out (run len (.climb left min) ts k) = .error (.tooDeep maxDepth (posOf len ts)) := by
  conv => lhs; rw [run]
  split
  · rename_i hs
    rw [h] at hs
    cases hs
  · rename_i hs
    rw [h, Option.some.injEq, Prod.mk.injEq, Prod.mk.injEq] at hs
    obtain ⟨rfl, rfl, rfl⟩ := hs
    simp only [if_neg (Nat.not_lt.mpr hp), dif_pos hk]
    rfl

theorem out_climb_binary {o : BinOp} {r : { r : Tokens // r.length < ts.length }}
    (h : operatorAt ts = some (prec, some o, r)) (hp : min ≤ prec) (hk : k < maxDepth) :
    out (run len (.climb left min) ts k) =
      (out (run len (.expr (prec + 1)) r.val (k + 1))).bind fun p =>
        out (run len (.climb (.binary o left p.1) min) p.2 (k + 1)) := by
  conv => lhs; rw [run]
  split
  · rename_i hs
    rw [h] at hs
    cases hs
  · rename_i hs
    rw [h, Option.some.injEq, Prod.mk.injEq, Prod.mk.injEq] at hs
    obtain ⟨rfl, rfl, rfl⟩ := hs
    simp only [if_neg (Nat.not_lt.mpr hp), dif_neg (Nat.not_le.mpr hk)]
    exact out_bind _ _ _ fun p => out_keep _ _ fun q => ⟨rfl, rfl⟩

theorem out_climb_cond {r : { r : Tokens // r.length < ts.length }}
    (h : operatorAt ts = some (prec, none, r)) (hp : min ≤ prec) (hk : k < maxDepth) :
    out (run len (.climb left min) ts k) =
      (out (run len (.expr 1) r.val (k + 1))).bind fun p =>
        ((expect len .colon p.2).map (·.val)).bind fun r2 =>
          (out (run len (.expr 1) r2 (k + 1))).bind fun q =>
            out (run len (.climb (.cond left p.1 q.1) min) q.2 (k + 1)) := by
  conv => lhs; rw [run]
  split
  · rename_i hs
    rw [h] at hs
    cases hs
  · rename_i hs
    rw [h, Option.some.injEq, Prod.mk.injEq, Prod.mk.injEq] at hs
    obtain ⟨rfl, rfl, rfl⟩ := hs
    simp only [if_neg (Nat.not_lt.mpr hp), dif_neg (Nat.not_le.mpr hk)]
    refine out_bind _ _ _ fun p => out_bind_val _ _ _ fun r2 => out_bind _ _ _ fun q => ?_
    exact out_keep _ _ fun _ => ⟨rfl, rfl⟩

end Climb

variable {len}

theorem out_unary (ts : Tokens) (k : Nat) :
    out (run len .unary ts k) =
      if maxDepth ≤ k then .error (.tooDeep maxDepth (posOf len ts))
      else out (run len .operand ts (k + 1)) := by
  conv => lhs; rw [run]
  split <;> rfl

section Operand
variable {ts : Tokens} (k : Nat)

theorem out_operand_primary (h : unaryAt ts = none) :
    out (run len .operand ts k) =
      (out (run len .primary ts k)).bind fun p => out (run len (.suffixes p.1) p.2 k) := by
  conv => lhs; rw [run]
  split
  · exact out_bind _ _ _ fun p => out_keep _ _ fun q => ⟨rfl, rfl⟩
  · rename_i hs
    rw [h] at hs
    cases hs

theorem out_operand_min {r : { r : Tokens // r.length < ts.length }}
    {r' : { r' : Tokens // r'.length < r.val.length }} (h : unaryAt ts = some (.neg, r))
    (hm : minMagnitudeAt r.val = some r') :
    out (run len .operand ts k) = .ok (.lit (.int Int64.minValue), r'.val) := by
  conv => lhs; rw [run]
  split
  · rename_i hs
    rw [h] at hs
    cases hs
  · rename_i hs
    rw [h, Option.some.injEq, Prod.mk.injEq] at hs
    obtain ⟨rfl, rfl⟩ := hs
    simp only [hm]
    rfl

theorem out_operand_op {op : UnOp} {r : { r : Tokens // r.length < ts.length }}
    (h : unaryAt ts = some (op, r)) (hm : op = .neg → minMagnitudeAt r.val = none) :
    out (run len .operand ts k) =
      (out (run len .unary r.val k)).map fun p => (applyUnary op p.1, p.2) := by
  conv => lhs; rw [run]
  split
  · rename_i hs
    rw [h] at hs
    cases hs
  · rename_i hs
    rw [h, Option.some.injEq, Prod.mk.injEq] at hs
    obtain ⟨rfl, rfl⟩ := hs
    split
    · rename_i r' hmin
      rw [hm rfl] at hmin
      cases hmin
    · cases run len .unary r.val k <;> rfl

end Operand

section Primary
variable (t : Spanned Token) (rest : Tokens) (k : Nat)

theorem out_primary_end : out (run len .primary [] k) = .error (.unexpectedEnd len) := by
  conv => lhs; rw [run]
  rfl

theorem out_primary_atom {e : Expr} (h : atom t = some (.ok e)) :
    out (run len .primary (t :: rest) k) = .ok (e, rest) := by
  conv => lhs; rw [run]
  simp only [uncons, h]
  rfl

theorem out_primary_atomError {e : ParseError} (h : atom t = some (.error e)) :
    out (run len .primary (t :: rest) k) = .error e := by
  conv => lhs; rw [run]
  simp only [uncons, h]
  rfl

theorem out_primary_name {name : String} (ha : atom t = none) (hi : identName? t.value = some name) :
    out (run len .primary (t :: rest) k) = out (run len (.named none name) rest k) := by
  conv => lhs; rw [run]
  simp only [uncons, ha, hi]
  exact out_keep _ _ fun _ => ⟨rfl, rfl⟩

theorem out_primary_group (ha : atom t = none) (ht : t.value = .lparen) :
    out (run len .primary (t :: rest) k) =
      (out (run len (.expr 1) rest k)).bind fun p =>
        ((expect len .rparen p.2).map (·.val)).bind fun r => .ok (p.1, r) := by
  conv => lhs; rw [run]
  simp only [uncons, ha, ht, identName?, if_true]
  exact out_bind _ _ _ fun p => out_bind_val _ _ _ fun r => rfl

theorem out_primary_list (ha : atom t = none) (ht : t.value = .lbrace) :
    out (run len .primary (t :: rest) k) =
      match after? .rbrace rest with
      | some r => .ok (.list [], r)
      | none => out (run len (.listItems []) rest k) := by
  conv => lhs; rw [run]
  simp only [uncons, ha, ht, identName?, reduceCtorEq, if_false, if_true, after?]
  cases tokenAt .rbrace rest with
  | some r => rfl
  | none => exact out_keep _ _ fun _ => ⟨rfl, rfl⟩

theorem out_primary_map (ha : atom t = none) (ht : t.value = .hashBrace) :
    out (run len .primary (t :: rest) k) =
      match after? .rbrace rest with
      | some r => .ok (.map [], r)
      | none => out (run len (.mapEntries []) rest k) := by
  conv => lhs; rw [run]
  simp only [uncons, ha, ht, identName?, reduceCtorEq, if_false, if_true, after?]
  cases tokenAt .rbrace rest with
  | some r => rfl
  | none => exact out_keep _ _ fun _ => ⟨rfl, rfl⟩

theorem out_primary_other (ha : atom t = none) (hi : identName? t.value = none)
    (h1 : t.value ≠ .lparen) (h2 : t.value ≠ .lbrace) (h3 : t.value ≠ .hashBrace) :
    out (run len .primary (t :: rest) k) = .error (.unexpectedToken t.value.render t.start) := by
  conv => lhs; rw [run]
  simp only [uncons, ha, hi, h1, h2, h3, if_false]
  rfl

end Primary

section Sequences
variable (ts : Tokens) (k : Nat)

theorem out_listItems (acc : List Expr) :
    out (run len (.listItems acc) ts k) =
      (out (run len (.expr 1) ts k)).bind fun p =>
        match after? .comma p.2 with
        | some r => out (run len (.listItems (p.1 :: acc)) r k)
        | none =>
          match after? .rbrace p.2 with
          | some r => .ok (.list (p.1 :: acc).reverse, r)
          | none => .error (expected len "',' or '\x7d' in list literal" p.2) := by
  conv => lhs; rw [run]
  refine out_bind _ _ _ fun p => ?_
  simp only [after?]
  cases tokenAt .comma p.rest with
  | some r => exact out_keep _ _ fun _ => ⟨rfl, rfl⟩
  | none => cases tokenAt .rbrace p.rest <;> rfl

theorem out_mapEntries (acc : List (Expr × Expr)) :
    out (run len (.mapEntries acc) ts k) =
      (out (run len (.expr 1) ts k)).bind fun key =>
        ((expect len .colon key.2).map (·.val)).bind fun r1 =>
          (out (run len (.expr 1) r1 k)).bind fun value =>
            match after? .comma value.2 with
            | some r => out (run len (.mapEntries ((key.1, value.1) :: acc)) r k)
            | none =>
              match after? .rbrace value.2 with
              | some r => .ok (.map ((key.1, value.1) :: acc).reverse, r)
              | none => .error (expected len "',' or '\x7d' in map literal" value.2) := by
  conv => lhs; rw [run]
  refine out_bind _ _ _ fun key => out_bind_val _ _ _ fun r1 => out_bind _ _ _ fun value => ?_
  simp only [after?]
  cases tokenAt .comma value.rest with
  | some r => exact out_keep _ _ fun _ => ⟨rfl, rfl⟩
  | none => cases tokenAt .rbrace value.rest <;> rfl

theorem out_arguments (base : Option Expr) (name : String) (acc : List Expr) :
    out (run len (.arguments base name acc) ts k) =
      (out (run len (.expr 1) ts k)).bind fun p =>
        match after? .comma p.2 with
        | some r => out (run len (.arguments base name (p.1 :: acc)) r k)
        | none =>
          match after? .rparen p.2 with
          | some r => .ok (.call base name (p.1 :: acc).reverse, r)
          | none => .error (expected len "',' or ')' in method arguments" p.2) := by
  conv => lhs; rw [run]
  refine out_bind _ _ _ fun p => ?_
  simp only [after?]
  cases tokenAt .comma p.rest with
  | some r => exact out_keep _ _ fun _ => ⟨rfl, rfl⟩
  | none => cases tokenAt .rparen p.rest <;> rfl

theorem out_named_prop (base : Option Expr) (name : String) (h : after? .lparen ts = none) :
    out (run len (.named base name) ts k) = .ok (.prop base name, ts) := by
  conv => lhs; rw [run]
  simp only [after?, Option.map_eq_none_iff] at h
  simp only [h]
  rfl

theorem out_named_call (base : Option Expr) (name : String) {r : Tokens}
    (h : after? .lparen ts = some r) :
    out (run len (.named base name) ts k) =
      match after? .rparen r with
      | some r' => .ok (.call base name [], r')
      | none => out (run len (.arguments base name []) r k) := by
  conv => lhs; rw [run]
  simp only [after?, Option.map_eq_some_iff] at h
  obtain ⟨⟨r, hr⟩, e, rfl⟩ := h
  simp only [e, after?]
  cases tokenAt .rparen r with
  | some r' => rfl
  | none => exact out_keep _ _ fun _ => ⟨rfl, rfl⟩

end Sequences

section Postfix
variable (t : Spanned Token) (rest : Tokens) (k : Nat)

theorem out_suffixes_end (left : Expr) : out (run len (.suffixes left) [] k) = .ok (left, []) := by
  conv => lhs; rw [run]
  rfl

theorem out_suffixes_stop (left : Expr) (h1 : t.value ≠ .dot) (h2 : t.value ≠ .lbracket) :
    out (run len (.suffixes left) (t :: rest) k) = .ok (left, t :: rest) := by
  conv => lhs; rw [run]
  simp only [uncons, h1, h2, if_false]
  rfl

theorem out_suffixes_member (left : Expr) (h : t.value = .dot) :
    out (run len (.suffixes left) (t :: rest) k) =
      if maxDepth ≤ k then .error (.tooDeep maxDepth t.start)
      else (out (run len (.member left) rest (k + 1))).bind fun p =>
        out (run len (.suffixes p.1) p.2 (k + 1)) := by
  conv => lhs; rw [run]
  simp only [uncons, h, if_true]
  split
  · rfl
  · exact out_bind _ _ _ fun p => out_keep _ _ fun _ => ⟨rfl, rfl⟩

theorem out_suffixes_index (left : Expr) (h : t.value = .lbracket) :
    out (run len (.suffixes left) (t :: rest) k) =
      if maxDepth ≤ k then .error (.tooDeep maxDepth t.start)
      else (out (run len (.expr 1) rest (k + 1))).bind fun i =>
        ((expect len .rbracket i.2).map (·.val)).bind fun r =>
          out (run len (.suffixes (.index left i.1)) r (k + 1)) := by
  conv => lhs; rw [run]
  simp only [uncons, h, reduceCtorEq, if_false, if_true]
  split
  · rfl
  · exact out_bind _ _ _ fun i => out_bind_val _ _ _ fun r => out_keep _ _ fun _ => ⟨rfl, rfl⟩

theorem out_member_end (base : Expr) : out (run len (.member base) [] k) = .error (.unexpectedEnd len) := by
  conv => lhs; rw [run]
  rfl

theorem out_member_brace (base : Expr) (h : t.value = .lbrace) :
    out (run len (.member base) (t :: rest) k) =
      (out (run len (.expr 1) (questionAt rest).2.val k)).bind fun p =>
        ((expect len .rbrace p.2).map (·.val)).bind fun r =>
          .ok (if (questionAt rest).1 then .select base p.1 else .project base p.1, r) := by
  conv => lhs; rw [run]
  simp only [uncons, h, if_true]
  exact out_bind _ _ _ fun p => out_bind_val _ _ _ fun r => rfl

theorem out_member_name (base : Expr) {name : String} (h1 : t.value ≠ .lbrace)
    (h2 : memberName? t.value = some name) :
    out (run len (.member base) (t :: rest) k) = out (run len (.named (some base) name) rest k) := by
  conv => lhs; rw [run]
  simp only [uncons, h1, h2, if_false]
  exact out_keep _ _ fun _ => ⟨rfl, rfl⟩

theorem out_member_bad (base : Expr) (h1 : t.value ≠ .lbrace) (h2 : memberName? t.value = none) :
    out (run len (.member base) (t :: rest) k) =
      .error (.expectedToken "member name after '.'" t.value.render t.start) := by
  conv => lhs; rw [run]
  simp only [uncons, h1, h2, if_false]
  rfl

end Postfix

end TypedExpr.Parser
