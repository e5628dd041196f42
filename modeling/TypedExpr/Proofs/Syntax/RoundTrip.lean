import TypedExpr.Proofs.Syntax.Reading
import TypedExpr.Proofs.Syntax.Scan

/-! Reading printed tokens gives back the tree they were printed from. Every step of the reader
either goes on or stops at the nesting limit, so a read of printed tokens gives the tree or the
nesting error, and gives the tree when enough levels are left: `Yields`. -/

namespace TypedExpr.Parser

def Yields (r : Except ParseError (Expr × Tokens)) (t : Expr) (rest : Tokens) (fits : Prop) : Prop :=
  (r = .ok (t, rest) ∨ ∃ p, r = .error (.tooDeep maxDepth p)) ∧ (fits → r = .ok (t, rest))

namespace Yields
variable {r x : Except ParseError (Expr × Tokens)} {t a : Expr} {rest ra : Tokens} {P Q : Prop}

theorem ok (t : Expr) (rest : Tokens) (P : Prop) : Yields (.ok (t, rest)) t rest P :=
  ⟨.inl rfl, fun _ => rfl⟩

theorem mono (h : Yields r t rest P) (hq : Q → P) : Yields r t rest Q :=
  ⟨h.1, fun q => h.2 (hq q)⟩

theorem bind {F : Expr × Tokens → Except ParseError (Expr × Tokens)} (hx : Yields x a ra P)
    (hf : Yields (F (a, ra)) t rest Q) : Yields (x.bind F) t rest (P ∧ Q) := by
  obtain ⟨hx1 | ⟨p, hx1⟩, hx2⟩ := hx
  · rw [hx1]
    exact ⟨hf.1, fun h => hf.2 h.2⟩
  · rw [hx1]
    refine ⟨.inr ⟨p, rfl⟩, fun h => ?_⟩
    have e := hx2 h.1
    rw [hx1] at e
    cases e

theorem bind_eq {F : Expr × Tokens → Except ParseError (Expr × Tokens)}
    {y : Except ParseError (Expr × Tokens)} (hx : Yields x a ra P) (hF : F (a, ra) = y)
    (hy : Yields y t rest Q) : Yields (x.bind F) t rest (P ∧ Q) :=
  hx.bind (hF ▸ hy)

theorem map (f : Expr → Expr) (hx : Yields x a ra P) :
    Yields (x.map fun p => (f p.1, p.2)) (f a) ra P := by
  obtain ⟨hx1 | ⟨p, hx1⟩, hx2⟩ := hx
  · rw [hx1]
    exact ok _ _ _
  · rw [hx1]
    refine ⟨.inr ⟨p, rfl⟩, fun h => ?_⟩
    have e := hx2 h
    rw [hx1] at e
    cases e

theorem guard {k p : Nat} (h : Yields r t rest P) :
    Yields (if maxDepth ≤ k then .error (.tooDeep maxDepth p) else r) t rest (k < maxDepth ∧ P) := by
  by_cases hk : maxDepth ≤ k
  · rw [if_pos hk]
    exact ⟨.inr ⟨p, rfl⟩, fun h => absurd h.1 (Nat.not_lt.mpr hk)⟩
  · rw [if_neg hk]
    exact h.mono And.right

end Yields

theorem keyword_mem {n : String} {tok : Token} (h : Token.keyword? n = some tok) :
    (n, tok) ∈ Token.keywords := by
  simp only [Token.keyword?, Option.map_eq_some_iff] at h
  obtain ⟨e, he, rfl⟩ := h
  have hn := List.find?_some he
  simp only [beq_iff_eq] at hn
  rw [← hn]
  exact List.mem_of_find?_eq_some he

theorem memberToken_ne {n : String} : memberToken n ≠ .lbrace ∧ memberToken n ≠ .lparen := by
  unfold memberToken
  cases h : Token.keyword? n with
  | none => exact ⟨nofun, nofun⟩
  | some tok =>
    have hm : ∀ e ∈ Token.keywords, e.2 ≠ .lbrace ∧ e.2 ≠ .lparen := by decide
    exact hm (n, tok) (keyword_mem h)

def Starts : Token → Prop
  | .integer n => n < 2 ^ 63
  | .lparen | .lbrace | .hashBrace | .ident _ | .var _ | .decimal _ | .str _ | .trueWord
  | .falseWord | .nullWord => True
  | _ => False

theorem literal_toks_head (l : Literal) : ∃ tok rest, l.toks = tok :: rest ∧ Starts tok := by
  cases l with
  | null => exact ⟨_, _, rfl, trivial⟩
  | bool b => cases b <;> exact ⟨_, _, rfl, trivial⟩
  | int n =>
    have hhi := Int64.toInt_lt n
    simp only [Literal.toks]
    split
    · exact ⟨_, _, rfl, trivial⟩
    · refine ⟨_, _, rfl, ?_⟩
      show n.toInt.toNat < 2 ^ 63
      omega
  | dec d =>
    simp only [Literal.toks]
    split <;> exact ⟨_, _, rfl, trivial⟩
  | str s => exact ⟨_, _, rfl, trivial⟩

theorem toks_head (t : Expr) : ∃ tok rest, t.toks = tok :: rest ∧ Starts tok := by
  cases t with
  | lit l => exact literal_toks_head l
  | prop b n => cases b <;> exact ⟨_, _, rfl, trivial⟩
  | call b m args => cases b <;> exact ⟨_, _, rfl, trivial⟩
  | _ => exact ⟨_, _, rfl, trivial⟩

theorem unaryAt_starts {x : Spanned Token} (hx : Starts x.value) (rest : Tokens) :
    unaryAt (x :: rest) = none := by
  have h1 : x.value ≠ .minus := fun h => by rw [h] at hx; exact hx
  have h2 : x.value ≠ .not := fun h => by rw [h] at hx; exact hx
  simp [unaryAt, h1, h2]

theorem minMagnitudeAt_of_ne {x : Spanned Token} (h : x.value ≠ .integer (2 ^ 63)) (rest : Tokens) :
    minMagnitudeAt (x :: rest) = none :=
  if_neg h

theorem minMagnitudeAt_starts {x : Spanned Token} (hx : Starts x.value) (rest : Tokens) :
    minMagnitudeAt (x :: rest) = none := by
  refine minMagnitudeAt_of_ne (fun h => ?_) rest
  rw [h] at hx
  exact Nat.lt_irrefl _ hx

def Closes (rest : Tokens) : Prop :=
  ∀ x ∈ rest.head?, x.value ∈ [.rparen, .rbracket, .rbrace, .comma, .colon]

def Ends (rest : Tokens) : Prop :=
  ∀ x ∈ rest.head?, x.value ≠ .lparen ∧ x.value ≠ .dot ∧ x.value ≠ .lbracket

theorem closes_cons {x : Spanned Token} (hx : x.value ∈ [.rparen, .rbracket, .rbrace, .comma, .colon])
    (rest : Tokens) : Closes (x :: rest) := by
  rintro y hy
  simp only [List.head?_cons, Option.mem_def, Option.some.injEq] at hy
  exact hy ▸ hx

theorem Closes.ends {rest : Tokens} (h : Closes rest) : Ends rest := by
  intro x hx
  have := h x hx
  simp only [List.mem_cons, List.not_mem_nil, or_false] at this
  rcases this with e | e | e | e | e <;> rw [e] <;> decide

theorem Closes.operatorAt {rest : Tokens} (h : Closes rest) : operatorAt rest = none := by
  cases rest with
  | nil => rfl
  | cons x r =>
    have hx := h x rfl
    simp only [List.mem_cons, List.not_mem_nil, or_false] at hx
    have hb : binaryOf x.value = none := by rcases hx with e | e | e | e | e <;> rw [e] <;> rfl
    have hn : x.value ≠ .not := by rcases hx with e | e | e | e | e <;> rw [e] <;> decide
    cases r <;> simp [Parser.operatorAt, hb, hn]

theorem Ends.noCall {rest : Tokens} (h : Ends rest) : ∀ x ∈ rest.head?, x.value ≠ .lparen :=
  fun x hx => (h x hx).1

theorem out_suffixes_ends {len : Nat} (left : Expr) {rest : Tokens} (h : Ends rest) (k : Nat) :
    out (run len (.suffixes left) rest k) = .ok (left, rest) := by
  cases rest with
  | nil => exact out_suffixes_end k left
  | cons x r => exact out_suffixes_stop x r k left (h x rfl).2.1 (h x rfl).2.2

theorem memberName_memberToken (n : String) : memberName? (memberToken n) = some n := by
  unfold memberToken
  cases h : Token.keyword? n with
  | none => rfl
  | some tok =>
    have hm : ∀ e ∈ Token.keywords, memberName? e.2 = some e.1 := by decide
    exact hm (n, tok) (keyword_mem h)

theorem Yields.deep {r : Except ParseError (Expr × Tokens)} {t : Expr} {rest : Tokens} {P : Prop}
    {p : Nat} (h : r = .error (.tooDeep maxDepth p)) (hP : ¬P) : Yields r t rest P :=
  ⟨.inr ⟨p, h⟩, fun h' => absurd h' hP⟩

variable (len : Nat)

def Primary (t : Expr) : Prop :=
  ∀ (ts rest : List (Spanned Token)) (k : Nat), ts.map (·.value) = t.toks →
    (∀ x ∈ rest.head?, x.value ≠ .lparen) →
    Yields (out (run len .primary (ts ++ rest) k)) t rest (k + 3 * t.height ≤ maxDepth)

variable {len}

theorem Primary.asOperand {t : Expr} (h : Primary len t) {ts rest : List (Spanned Token)}
    (hts : ts.map (·.value) = t.toks) (hr : Ends rest) (k : Nat) :
    Yields (out (run len .unary (ts ++ rest) k)) t rest (k + 1 + 3 * t.height ≤ maxDepth) := by
  obtain ⟨tok, more, htoks, hs⟩ := toks_head t
  obtain ⟨x, ts', rfl, hx, -⟩ := List.map_eq_cons_iff.mp (hts.trans htoks)
  have hop : unaryAt ((x :: ts') ++ rest) = none := unaryAt_starts (hx ▸ hs) _
  have hsuf : Yields (out (run len (.suffixes t) rest (k + 1))) t rest True := by
    rw [out_suffixes_ends t hr]
    exact Yields.ok _ _ _
  rw [out_unary]
  refine (Yields.guard ?_).mono fun hk => ⟨by omega, hk⟩
  rw [out_operand_primary _ hop]
  exact ((h _ rest (k + 1) hts hr.noCall).bind hsuf).mono fun hk => ⟨hk, trivial⟩

theorem Primary.asExpr {t : Expr} (h : Primary len t) {ts rest : List (Spanned Token)}
    (hts : ts.map (·.value) = t.toks) (hr : Closes rest) (m k : Nat) :
    Yields (out (run len (.expr m) (ts ++ rest) k)) t rest (k + 1 + 3 * t.height ≤ maxDepth) := by
  have hc : Yields (out (run len (.climb t m) rest k)) t rest True := by
    rw [out_climb_none len t m k hr.operatorAt]
    exact Yields.ok _ _ _
  rw [out_expr]
  exact ((h.asOperand hts hr.ends k).bind hc).mono fun hk => ⟨hk, trivial⟩

theorem unescapeFrom_escape (off : Nat) (cs : List Char) :
    ∀ (acc : List Char) (i : Nat),
      unescapeFrom off acc (escape cs) i = .ok (String.ofList (acc.reverse ++ cs)) := by
  induction cs with
  | nil =>
    intro acc i
    rw [escape_nil, unescapeFrom, List.append_nil]
  | cons c cs ih =>
    intro acc i
    have step : String.ofList ((c :: acc).reverse ++ cs) = String.ofList (acc.reverse ++ c :: cs) := by
      simp
    rw [escape_cons]
    by_cases hq : c = '\\' ∨ c = '\''
    · rw [if_pos hq, List.cons_append, List.cons_append, List.nil_append, unescapeFrom]
      rcases hq with rfl | rfl
      · rw [if_neg (by decide)]
        dsimp only
        rw [if_neg (by decide), if_neg (by decide), if_neg (by decide), if_pos rfl, ih, step]
      · rw [if_neg (by decide)]
        dsimp only
        rw [if_neg (by decide), if_neg (by decide), if_neg (by decide), if_neg (by decide), if_pos rfl,
          ih, step]
    · simp only [not_or] at hq
      rw [if_neg (by simp [hq.1, hq.2]), List.singleton_append, unescapeFrom, if_pos hq.1, ih, step]

theorem atom_lparen {x : Spanned Token} (h : x.value = .lparen) : atom x = none := by
  simp [atom, h]

theorem group_yields {t : Expr} {x0 xc : Spanned Token} {inner rest : Tokens} {P : Prop} {k : Nat}
    (h0 : x0.value = .lparen) (hc : xc.value = .rparen)
    (hin : Yields (out (run len (.expr 1) inner k)) t (xc :: rest) P) :
    Yields (out (run len .primary (x0 :: inner) k)) t rest P := by
  have hclose : Yields (((expect len .rparen (xc :: rest)).map (·.val)).bind fun r => .ok (t, r))
      t rest True := by
    rw [expect_val hc]
    exact Yields.ok _ _ _
  rw [out_primary_group x0 _ k (atom_lparen h0) h0]
  exact (hin.bind hclose).mono fun hk => ⟨hk, trivial⟩

theorem ofNat_toNat_toInt {n : Int64} (h : 0 ≤ n.toInt) : Int64.ofNat n.toInt.toNat = n := by
  have hhi := Int64.toInt_lt n
  apply Int64.toInt_inj.mp
  rw [Int64.toInt_ofNat_of_lt (by omega)]
  omega

theorem neg_ofNat_natAbs {n : Int64} (h : n.toInt < 0) (hn : n ≠ Int64.minValue) :
    -Int64.ofNat n.toInt.natAbs = n := by
  have hlo := Int64.le_toInt n
  have hne : n.toInt ≠ -2 ^ 63 := fun e => hn (Int64.toInt_inj.mp (e.trans Int64.toInt_minValue.symm))
  apply Int64.toInt_inj.mp
  rw [Int64.toInt_neg, Int64.toInt_ofNat_of_lt (by omega), Int.bmod_eq_of_le (by omega) (by omega)]
  omega

theorem ofNat_ne_minValue {m : Nat} (hm : m < 2 ^ 63) : Int64.ofNat m ≠ Int64.minValue := by
  intro e
  have := congrArg Int64.toInt e
  rw [Int64.toInt_ofNat_of_lt hm, Int64.toInt_minValue] at this
  omega

theorem eq_minValue {n : Int64} (h : n.toInt < 0) (hn : n.toInt.natAbs = 2 ^ 63) : n = Int64.minValue :=
  Int64.toInt_inj.mp (by rw [Int64.toInt_minValue]; omega)

theorem Decimal.negate_negate (d : Decimal) : d.negate.negate = d := by
  cases d
  simp [Decimal.negate]

theorem atom_integer {x : Spanned Token} {m : Nat} (hx : x.value = .integer m) (hm : m < 2 ^ 63) :
    atom x = some (.ok (.lit (.int (Int64.ofNat m)))) := by
  rw [atom, hx]
  exact if_pos hm

theorem atom_decimal {x : Spanned Token} {d : Decimal} (hx : x.value = .decimal d.render)
    (hn : d.neg = false) : atom x = some (.ok (.lit (.dec d))) := by
  simp [atom, hx, Decimal.read?_render hn]

theorem atom_string {x : Spanned Token} {s : String} (hx : x.value = .str (String.ofList (escape s.toList))) :
    atom x = some (.ok (.lit (.str s))) := by
  simp [atom, hx, unescape, unescapeFrom_escape, Except.map]

theorem unaryAt_of_atom {x : Spanned Token} {r : Except ParseError Expr} (h : atom x = some r)
    (rest : Tokens) : unaryAt (x :: rest) = none := by
  have h1 : x.value ≠ .minus := fun e => by simp [atom, e] at h
  have h2 : x.value ≠ .not := fun e => by simp [atom, e] at h
  simp [unaryAt, h1, h2]

theorem unaryAt_minus {x : Spanned Token} (h : x.value = .minus) (rest : Tokens) :
    unaryAt (x :: rest) = some (.neg, ⟨rest, Nat.lt_succ_self _⟩) := by
  simp [unaryAt, h]

theorem atom_yields {x : Spanned Token} {l : Literal} (h : atom x = some (.ok (.lit l))) (rest : Tokens)
    (k : Nat) (P : Prop) : Yields (out (run len .primary ([x] ++ rest) k)) (.lit l) rest P := by
  rw [List.singleton_append, out_primary_atom x rest k h]
  exact Yields.ok _ _ _

theorem negated_yields {xm xi xc : Spanned Token} {l : Literal} {rest : Tokens} {k : Nat}
    (hm : xm.value = .minus) (hi : atom xi = some (.ok (.lit l)))
    (hmin : xi.value ≠ .integer (2 ^ 63)) (hc : xc.value = .rparen) :
    Yields (out (run len (.expr 1) (xm :: xi :: xc :: rest) k)) (applyUnary .neg (.lit l))
      (xc :: rest) (k + 1 < maxDepth) := by
  have hends : Ends (xc :: rest) := (closes_cons (by simp [hc]) rest).ends
  have hx : Yields (out (run len .unary (xi :: xc :: rest) (k + 1))) (.lit l) (xc :: rest)
      (k + 1 < maxDepth) := by
    rw [out_unary]
    refine (Yields.guard ?_).mono fun h => ⟨h, trivial⟩
    rw [out_operand_primary _ (unaryAt_of_atom hi _), out_primary_atom xi _ _ hi]
    show Yields (out (run len (.suffixes (.lit l)) (xc :: rest) _)) _ _ _
    rw [out_suffixes_ends _ hends]
    exact Yields.ok _ _ _
  have hmin' : minMagnitudeAt (xi :: xc :: rest) = none := minMagnitudeAt_of_ne hmin _
  have hc' : Yields (out (run len (.climb (applyUnary .neg (.lit l)) 1) (xc :: rest) k))
      (applyUnary .neg (.lit l)) (xc :: rest) True := by
    rw [out_climb_none len _ 1 k (closes_cons (by simp [hc]) rest).operatorAt]
    exact Yields.ok _ _ _
  rw [out_expr, out_unary]
  refine ((Yields.guard ?_).bind hc').mono fun h => ⟨⟨by omega, h⟩, trivial⟩
  rw [out_operand_op _ (unaryAt_minus hm _) fun _ => hmin']
  exact hx.map (applyUnary .neg)

theorem min_yields {xm xi xc : Spanned Token} {rest : Tokens} {k : Nat} (hm : xm.value = .minus)
    (hi : xi.value = .integer (2 ^ 63)) (hc : xc.value = .rparen) :
    Yields (out (run len (.expr 1) (xm :: xi :: xc :: rest) k)) (.lit (.int Int64.minValue))
      (xc :: rest) (k < maxDepth) := by
  have hmin : minMagnitudeAt (xi :: xc :: rest) = some ⟨xc :: rest, by simp⟩ := by
    simp [minMagnitudeAt, hi, hc]
  have hc' : Yields (out (run len (.climb (.lit (.int Int64.minValue)) 1) (xc :: rest) k))
      (.lit (.int Int64.minValue)) (xc :: rest) True := by
    rw [out_climb_none len _ 1 k (closes_cons (by simp [hc]) rest).operatorAt]
    exact Yields.ok _ _ _
  rw [out_expr, out_unary]
  refine ((Yields.guard ?_).bind hc').mono fun h => ⟨⟨h, trivial⟩, trivial⟩
  rw [out_operand_min _ (unaryAt_minus hm _) hmin]
  exact Yields.ok _ _ _

theorem tokens_one {ts : Tokens} {a : Token} (h : ts.map (·.value) = [a]) :
    ∃ x, ts = [x] ∧ x.value = a := by
  obtain ⟨x, ts', rfl, hx, h'⟩ := List.map_eq_cons_iff.mp h
  rw [List.map_eq_nil_iff] at h'
  exact ⟨x, by rw [h'], hx⟩

theorem tokens_four {ts : Tokens} {a b c d : Token} (h : ts.map (·.value) = [a, b, c, d]) :
    ∃ x0 x1 x2 x3, ts = [x0, x1, x2, x3] ∧ x0.value = a ∧ x1.value = b ∧ x2.value = c ∧
      x3.value = d := by
  obtain ⟨x0, ts, rfl, h0, h⟩ := List.map_eq_cons_iff.mp h
  obtain ⟨x1, ts, rfl, h1, h⟩ := List.map_eq_cons_iff.mp h
  obtain ⟨x2, ts, rfl, h2, h⟩ := List.map_eq_cons_iff.mp h
  obtain ⟨x3, rfl, h3⟩ := tokens_one h
  exact ⟨x0, x1, x2, x3, rfl, h0, h1, h2, h3⟩

theorem negative_int_yields {xm xi xc : Spanned Token} {n : Int64} {rest : Tokens} {k : Nat}
    (hneg : n.toInt < 0) (hm : xm.value = .minus) (hi : xi.value = .integer n.toInt.natAbs)
    (hc : xc.value = .rparen) :
    Yields (out (run len (.expr 1) (xm :: xi :: xc :: rest) k)) (.lit (.int n)) (xc :: rest)
      (k + 1 < maxDepth) := by
  have hlo := Int64.le_toInt n
  by_cases hmin : n.toInt.natAbs = 2 ^ 63
  · rw [eq_minValue hneg hmin]
    exact (min_yields hm (by rw [hi, hmin]) hc).mono fun h => by omega
  · have hlt : n.toInt.natAbs < 2 ^ 63 := by omega
    have hne : n ≠ Int64.minValue := fun e => hmin (by rw [e, Int64.toInt_minValue]; rfl)
    have h : Yields (out (run len (.expr 1) (xm :: xi :: xc :: rest) k)) _ _ _ :=
      negated_yields hm (atom_integer hi hlt) (by rw [hi]; simpa using hmin) hc
    rw [applyUnary, if_neg (ofNat_ne_minValue hlt), neg_ofNat_natAbs hneg hne] at h
    exact h

theorem negative_dec_yields {xm xi xc : Spanned Token} {d : Decimal} {rest : Tokens} {k : Nat}
    (hn : d.neg = true) (hm : xm.value = .minus) (hi : xi.value = .decimal d.negate.render)
    (hc : xc.value = .rparen) :
    Yields (out (run len (.expr 1) (xm :: xi :: xc :: rest) k)) (.lit (.dec d)) (xc :: rest)
      (k + 1 < maxDepth) := by
  have h : Yields (out (run len (.expr 1) (xm :: xi :: xc :: rest) k)) _ _ _ :=
    negated_yields hm (atom_decimal hi (by simp [Decimal.negate, hn]))
      (by rw [hi]; exact fun h => Token.noConfusion h) hc
  rw [applyUnary, Decimal.negate_negate] at h
  exact h

theorem Primary.lit (l : Literal) : Primary len (.lit l) := by
  intro ts rest k hts _
  have hh : (Expr.lit l).height = 1 := by simp [Expr.height]
  rw [hh]
  cases l with
  | null =>
    obtain ⟨x, rfl, hx⟩ := tokens_one hts
    exact atom_yields (by simp [atom, hx]) rest k _
  | bool b =>
    obtain ⟨x, rfl, hx⟩ := tokens_one hts
    -- `true` and `false` are read by two rows of `atom`
    cases b <;> exact atom_yields (by simp [atom, hx]) rest k _
  | int n =>
    by_cases hneg : n.toInt < 0
    · have hts' : ts.map (·.value) = [.lparen, .minus, .integer n.toInt.natAbs, .rparen] := by
        simpa [Expr.toks, Literal.toks, hneg] using hts
      obtain ⟨x0, xm, xi, xc, rfl, h0, hm, hi, hc⟩ := tokens_four hts'
      exact group_yields h0 hc ((negative_int_yields hneg hm hi hc).mono fun h => by omega)
    · have hhi := Int64.toInt_lt n
      have hts' : ts.map (·.value) = [.integer n.toInt.toNat] := by
        simpa [Expr.toks, Literal.toks, hneg] using hts
      obtain ⟨x, rfl, hx⟩ := tokens_one hts'
      have h := atom_integer hx (by omega)
      rw [ofNat_toNat_toInt (by omega)] at h
      exact atom_yields h rest k _
  | dec d =>
    cases hn : d.neg
    · have hts' : ts.map (·.value) = [.decimal d.render] := by
        simpa [Expr.toks, Literal.toks, hn] using hts
      obtain ⟨x, rfl, hx⟩ := tokens_one hts'
      exact atom_yields (atom_decimal hx hn) rest k _
    · have hts' : ts.map (·.value) = [.lparen, .minus, .decimal d.negate.render, .rparen] := by
        simpa [Expr.toks, Literal.toks, hn] using hts
      obtain ⟨x0, xm, xi, xc, rfl, h0, hm, hi, hc⟩ := tokens_four hts'
      exact group_yields h0 hc ((negative_dec_yields hn hm hi hc).mono fun h => by omega)
  | str s =>
    have hts' : ts.map (·.value) = [.str (String.ofList (escape s.toList))] := by
      simpa [Expr.toks, Literal.toks] using hts
    obtain ⟨x, rfl, hx⟩ := tokens_one hts'
    exact atom_yields (atom_string hx) rest k _

theorem after?_of_ne {tok : Token} {rest : Tokens} (h : ∀ x ∈ rest.head?, x.value ≠ tok) :
    after? tok rest = none := by
  cases rest with
  | nil => rfl
  | cons x r => rw [after?_cons, if_neg (h x rfl)]

theorem climb_closes (t : Expr) {rest : Tokens} (h : Closes rest) (m k : Nat) :
    Yields (out (run len (.climb t m) rest k)) t rest True := by
  rw [out_climb_none len t m k h.operatorAt]
  exact Yields.ok _ _ _

theorem Primary.var (n : String) : Primary len (.var n) := by
  intro ts rest k hts _
  obtain ⟨x, rfl, hx⟩ := tokens_one hts
  rw [List.singleton_append, out_primary_atom x rest k (e := .var n) (by simp [atom, hx])]
  exact Yields.ok _ _ _

theorem Primary.root (n : String) : Primary len (.prop none n) := by
  intro ts rest k hts hr
  obtain ⟨x, rfl, hx⟩ := tokens_one hts
  have hi : identName? x.value = some n := by simp [identName?, hx]
  rw [List.singleton_append, out_primary_name x rest k (by simp [atom, hx]) hi,
    out_named_prop rest k none n (after?_of_ne hr)]
  exact Yields.ok _ _ _

theorem binaryOf_toks (op : BinOp) (h : op ≠ .notMem) :
    ∃ tok, op.toks = [tok] ∧ tok ≠ .not ∧ ∃ prec, 1 ≤ prec ∧ binaryOf tok = some (prec, some op) := by
  cases op <;> simp_all [BinOp.toks, binaryOf]

theorem operatorAt_toks {op : BinOp} {os : List (Spanned Token)} (hos : os.map (·.value) = op.toks)
    (x : List (Spanned Token)) :
    ∃ prec, 1 ≤ prec ∧ ∃ h, operatorAt (os ++ x) = some (prec, some op, ⟨x, h⟩) := by
  by_cases hn : op = .notMem
  · subst hn
    obtain ⟨xn, os, rfl, hn, hos⟩ := List.map_eq_cons_iff.mp hos
    obtain ⟨xi, rfl, hi⟩ := tokens_one hos
    refine ⟨5, by decide, by simp only [List.cons_append, List.nil_append, List.length_cons]; omega, ?_⟩
    simp [operatorAt, hn, hi]
  · obtain ⟨tok, htoks, hnot, prec, hp, hb⟩ := binaryOf_toks op hn
    obtain ⟨o, rfl, ho⟩ := tokens_one (hos.trans htoks)
    refine ⟨prec, hp, by simp, ?_⟩
    cases x <;> simp [operatorAt, ho, hnot, hb]

theorem ends_toks_op {op : BinOp} {os : List (Spanned Token)} (hos : os.map (·.value) = op.toks)
    (x : List (Spanned Token)) :
    Ends (os ++ x) := by
  have hh : ∃ tok more, op.toks = tok :: more ∧ tok ≠ .lparen ∧ tok ≠ .dot ∧ tok ≠ .lbracket := by
    cases op <;> simp [BinOp.toks]
  obtain ⟨tok, more, htoks, h⟩ := hh
  obtain ⟨o, os, rfl, ho, -⟩ := List.map_eq_cons_iff.mp (hos.trans htoks)
  intro y hy
  simp only [List.cons_append, List.head?_cons, Option.mem_def, Option.some.injEq] at hy
  exact hy ▸ ho ▸ h

theorem binary_yields {op : BinOp} {l r : Expr} (hl : Primary len l) (hr : Primary len r)
    {ls os rs rest : List (Spanned Token)} (hls : ls.map (·.value) = l.toks) (hos : os.map (·.value) = op.toks)
    (hrs : rs.map (·.value) = r.toks) (hrest : Closes rest) (k : Nat) :
    Yields (out (run len (.expr 1) (ls ++ (os ++ (rs ++ rest))) k)) (.binary op l r) rest
      (k + 3 * (Expr.binary op l r).height ≤ maxDepth) := by
  obtain ⟨prec, hp, h, hop⟩ := operatorAt_toks hos (rs ++ rest)
  have hclimb : Yields (out (run len (.climb l 1) (os ++ (rs ++ rest)) k)) (.binary op l r) rest
      (k < maxDepth ∧ k + 2 + 3 * r.height ≤ maxDepth) := by
    by_cases hk : maxDepth ≤ k
    · exact Yields.deep (out_climb_deep len l 1 k hop hp hk) fun h => by omega
    · rw [out_climb_binary len l 1 k hop hp (by omega)]
      exact ((hr.asExpr hrs hrest (prec + 1) (k + 1)).bind (climb_closes _ hrest 1 (k + 1))).mono
        fun h => ⟨by omega, trivial⟩
  rw [out_expr]
  refine ((hl.asOperand hls (ends_toks_op hos _) k).bind hclimb).mono fun h => ?_
  simp only [Expr.height] at h
  omega

theorem Primary.binary (op : BinOp) {l r : Expr} (hl : Primary len l) (hr : Primary len r) :
    Primary len (.binary op l r) := by
  intro ts rest k hts _
  simp only [Expr.toks, List.cons_append, List.append_assoc] at hts
  obtain ⟨x0, ts, rfl, h0, hts⟩ := List.map_eq_cons_iff.mp hts
  obtain ⟨ls, ts, rfl, hls, hts⟩ := List.map_eq_append_iff.mp hts
  obtain ⟨os, ts, rfl, hos, hts⟩ := List.map_eq_append_iff.mp hts
  obtain ⟨rs, ts, rfl, hrs, hts⟩ := List.map_eq_append_iff.mp hts
  obtain ⟨xc, rfl, hc⟩ := tokens_one hts
  rw [show x0 :: (ls ++ (os ++ (rs ++ [xc]))) ++ rest = x0 :: (ls ++ (os ++ (rs ++ xc :: rest))) by simp]
  exact group_yields h0 hc (binary_yields hl hr hls hos hrs (closes_cons (by simp [hc]) rest) k)

theorem Primary.unary {op : UnOp} {e : Expr} (he : Primary len e)
    (happ : applyUnary op e = .unary op e) : Primary len (.unary op e) := by
  intro ts rest k hts _
  simp only [Expr.toks, List.cons_append] at hts
  obtain ⟨x0, ts, rfl, h0, hts⟩ := List.map_eq_cons_iff.mp hts
  obtain ⟨xo, ts, rfl, ho, hts⟩ := List.map_eq_cons_iff.mp hts
  obtain ⟨es, ts, rfl, hes, hts⟩ := List.map_eq_append_iff.mp hts
  obtain ⟨xc, rfl, hc⟩ := tokens_one hts
  have hcl : Closes (xc :: rest) := closes_cons (by simp [hc]) rest
  have hun : unaryAt (xo :: (es ++ xc :: rest)) = some (op, ⟨es ++ xc :: rest, by simp⟩) := by
    cases op <;> simp [unaryAt, ho, UnOp.token]
  have hmin : minMagnitudeAt (es ++ xc :: rest) = none := by
    obtain ⟨tok, more, htoks, hs⟩ := toks_head e
    obtain ⟨x, es, rfl, hx, -⟩ := List.map_eq_cons_iff.mp (hes.trans htoks)
    exact minMagnitudeAt_starts (hx ▸ hs) _
  rw [show x0 :: xo :: (es ++ [xc]) ++ rest = x0 :: xo :: (es ++ xc :: rest) by simp]
  refine group_yields h0 hc ?_
  have hop : Yields (out (run len .operand (xo :: (es ++ xc :: rest)) (k + 1))) (.unary op e)
      (xc :: rest) (k + 1 + 1 + 3 * e.height ≤ maxDepth) := by
    rw [out_operand_op _ hun fun _ => hmin, ← happ]
    exact (he.asOperand hes hcl.ends (k + 1)).map (applyUnary op)
  rw [out_expr, out_unary]
  refine ((Yields.guard hop).bind (climb_closes (.unary op e) hcl 1 k)).mono fun h => ?_
  simp only [Expr.height] at h
  exact ⟨⟨by omega, by omega⟩, trivial⟩

theorem Yields.expect {tok : Token} {xl : Spanned Token} (hx : xl.value = tok) {r : Tokens}
    {G : Tokens → Except ParseError (Expr × Tokens)} {t : Expr} {rest : Tokens} {P : Prop}
    (h : Yields (G r) t rest P) : Yields (((expect len tok (xl :: r)).map (·.val)).bind G) t rest P := by
  rw [expect_val hx]
  exact h

theorem operatorAt_question {xq : Spanned Token} (hq : xq.value = .question) (more : Tokens) :
    operatorAt (xq :: more) = some (1, none, ⟨more, Nat.lt_succ_self _⟩) := by
  cases more <;> simp [operatorAt, hq, binaryOf]

theorem cond_yields {c a b : Expr} (hc : Primary len c) (ha : Primary len a) (hb : Primary len b)
    {cs as bs rest : List (Spanned Token)} {xq xl : Spanned Token} (hcs : cs.map (·.value) = c.toks)
    (hq : xq.value = .question) (has : as.map (·.value) = a.toks) (hl : xl.value = .colon)
    (hbs : bs.map (·.value) = b.toks) (hrest : Closes rest) (k : Nat) :
    Yields (out (run len (.expr 1) (cs ++ xq :: (as ++ xl :: (bs ++ rest))) k)) (.cond c a b) rest
      (k + 3 * (Expr.cond c a b).height ≤ maxDepth) := by
  have hop := operatorAt_question hq (as ++ xl :: (bs ++ rest))
  have hends : Ends (xq :: (as ++ xl :: (bs ++ rest))) := by
    intro y hy
    simp only [List.head?_cons, Option.mem_def, Option.some.injEq] at hy
    subst hy
    simp [hq]
  have hclimb : Yields (out (run len (.climb c 1) (xq :: (as ++ xl :: (bs ++ rest))) k)) (.cond c a b)
      rest (k < maxDepth ∧ k + 2 + 3 * a.height ≤ maxDepth ∧ k + 2 + 3 * b.height ≤ maxDepth) := by
    by_cases hk : maxDepth ≤ k
    · exact Yields.deep (out_climb_deep len c 1 k hop (Nat.le_refl 1) hk) fun h => by omega
    · rw [out_climb_cond len c 1 k hop (Nat.le_refl 1) (by omega)]
      have hthen := ha.asExpr has (closes_cons (x := xl) (by simp [hl]) (bs ++ rest)) 1 (k + 1)
      have helse := (hb.asExpr hbs hrest 1 (k + 1)).bind
        (F := fun q => out (run len (.climb (.cond c a q.1) 1) q.2 (k + 1)))
        (climb_closes (.cond c a b) hrest 1 (k + 1))
      exact (hthen.bind (Yields.expect hl helse)).mono fun h => ⟨by omega, by omega, trivial⟩
  rw [out_expr]
  refine ((hc.asOperand hcs hends k).bind hclimb).mono fun h => ?_
  simp only [Expr.height] at h
  omega

theorem Primary.cond {c a b : Expr} (hc : Primary len c) (ha : Primary len a) (hb : Primary len b) :
    Primary len (.cond c a b) := by
  intro ts rest k hts _
  simp only [Expr.toks, List.cons_append, List.append_assoc] at hts
  obtain ⟨x0, ts, rfl, h0, hts⟩ := List.map_eq_cons_iff.mp hts
  obtain ⟨cs, ts, rfl, hcs, hts⟩ := List.map_eq_append_iff.mp hts
  obtain ⟨xq, ts, rfl, hq, hts⟩ := List.map_eq_cons_iff.mp hts
  obtain ⟨as, ts, rfl, has, hts⟩ := List.map_eq_append_iff.mp hts
  obtain ⟨xl, ts, rfl, hl, hts⟩ := List.map_eq_cons_iff.mp hts
  obtain ⟨bs, ts, rfl, hbs, hts⟩ := List.map_eq_append_iff.mp hts
  obtain ⟨xc, rfl, hxc⟩ := tokens_one hts
  rw [show x0 :: (cs ++ xq :: (as ++ xl :: (bs ++ [xc]))) ++ rest =
    x0 :: (cs ++ xq :: (as ++ xl :: (bs ++ xc :: rest))) by simp]
  exact group_yields h0 hxc
    (cond_yields hc ha hb hcs hq has hl hbs (closes_cons (by simp [hxc]) rest) k)

theorem suffixes_stop (t : Expr) {rest : Tokens} (h : Ends rest) (k : Nat) :
    Yields (out (run len (.suffixes t) rest k)) t rest True := by
  rw [out_suffixes_ends t h k]
  exact Yields.ok _ _ _

theorem postfix_yields {b t : Expr} (hb : Primary len b) {bs more rest : List (Spanned Token)}
    (hbs : bs.map (·.value) = b.toks) {xs : Spanned Token} (hxs : xs.value ≠ .lparen)
    (hrest : Closes rest) {Q : Prop} {k : Nat}
    (hsfx : Yields (out (run len (.suffixes b) (xs :: more) (k + 1))) t rest Q) :
    Yields (out (run len (.expr 1) (bs ++ xs :: more) k)) t rest
      ((k < maxDepth ∧ k + 1 + 3 * b.height ≤ maxDepth ∧ Q) ∧ True) := by
  obtain ⟨tok, toks, htoks, hs⟩ := toks_head b
  obtain ⟨x, bs', rfl, hx, -⟩ := List.map_eq_cons_iff.mp (hbs.trans htoks)
  have hop : unaryAt ((x :: bs') ++ xs :: more) = none := unaryAt_starts (hx ▸ hs) _
  have hnc : ∀ y ∈ (xs :: more).head?, y.value ≠ .lparen := by simp [hxs]
  have hin : Yields (out (run len .operand ((x :: bs') ++ xs :: more) (k + 1))) t rest
      (k + 1 + 3 * b.height ≤ maxDepth ∧ Q) := by
    rw [out_operand_primary _ hop]
    exact (hb _ _ (k + 1) hbs hnc).bind hsfx
  rw [out_expr, out_unary]
  exact (Yields.guard hin).bind (climb_closes t hrest 1 k)

theorem suffixes_dot {b t : Expr} {xd : Spanned Token} (hd : xd.value = .dot)
    {more rest : List (Spanned Token)} {Q : Prop} {k : Nat}
    (hm : Yields (out (run len (.member b) more (k + 1))) t rest Q) (hrest : Ends rest) :
    Yields (out (run len (.suffixes b) (xd :: more) k)) t rest (k < maxDepth ∧ Q ∧ True) := by
  rw [out_suffixes_member xd more k b hd]
  exact Yields.guard (hm.bind (suffixes_stop t hrest (k + 1)))

theorem suffixes_bracket {b i : Expr} (hi : Primary len i) {xl xr : Spanned Token}
    (hl : xl.value = .lbracket) (hr : xr.value = .rbracket) {is rest : List (Spanned Token)}
    (his : is.map (·.value) = i.toks) (hrest : Ends rest) (k : Nat) :
    Yields (out (run len (.suffixes b) (xl :: (is ++ xr :: rest)) k)) (.index b i) rest
      (k < maxDepth ∧ k + 1 + 1 + 3 * i.height ≤ maxDepth ∧ True) := by
  rw [out_suffixes_index xl _ k b hl]
  exact Yields.guard ((hi.asExpr his (closes_cons (x := xr) (by simp [hr]) rest) 1 (k + 1)).bind
    (Yields.expect hr (suffixes_stop (.index b i) hrest (k + 1))))

theorem heightList_cons (e : Expr) (es : List Expr) :
    Expr.heightList (e :: es) = max e.height (Expr.heightList es) := by
  simp [Expr.heightList]

theorem items_yields (G : List Expr → Goal) (build : List Expr → Expr) {closer : Token}
    (err : Tokens → ParseError)
    (hG : ∀ acc ts k, out (run len (G acc) ts k) =
      (out (run len (.expr 1) ts k)).bind fun p =>
        match after? .comma p.2 with
        | some r => out (run len (G (p.1 :: acc)) r k)
        | none =>
          match after? closer p.2 with
          | some r => .ok (build (p.1 :: acc).reverse, r)
          | none => .error (err p.2))
    (hc : closer = .rparen ∨ closer = .rbrace) {xc : Spanned Token} (hxc : xc.value = closer)
    (rest : List (Spanned Token)) (k : Nat) :
    ∀ (items acc : List Expr) (ts : List (Spanned Token)), items ≠ [] →
      (∀ a ∈ items, Primary len a) → ts.map (·.value) = Expr.toksList items →
      Yields (out (run len (G acc) (ts ++ xc :: rest) k)) (build (acc.reverse ++ items)) rest
        (k + 1 + 3 * Expr.heightList items ≤ maxDepth)
  | [], _, _, hne, _, _ => absurd rfl hne
  | [a], acc, ts, _, h, hts => by
    have hcx : Closes (xc :: rest) := closes_cons (by rcases hc with e | e <;> simp [hxc, e]) rest
    have hA := (h a (by simp)).asExpr (by simpa [Expr.toksList] using hts) hcx 1 k
    have hcl : closer ≠ .comma := by rcases hc with e | e <;> rw [e] <;> decide
    rw [hG]
    refine (hA.bind_eq (y := .ok (build (acc.reverse ++ [a]), rest)) ?_ (Yields.ok _ _ True)).mono
      fun hk => ⟨by simp [Expr.heightList] at hk; omega, trivial⟩
    simp [after?_cons, hxc, hcl]
  | a :: b :: more, acc, ts, _, h, hts => by
    rw [Expr.toksList.eq_3 _ _ (List.cons_ne_nil _ _)] at hts
    obtain ⟨as, ts, rfl, has, hts⟩ := List.map_eq_append_iff.mp hts
    obtain ⟨xm, ts, rfl, hm, hts⟩ := List.map_eq_cons_iff.mp hts
    have hA := (h a (by simp)).asExpr has (closes_cons (x := xm) (by simp [hm]) (ts ++ xc :: rest)) 1 k
    have hB := items_yields G build err hG hc hxc rest k (b :: more) (a :: acc) ts (List.cons_ne_nil _ _)
      (fun x hx => h x (List.mem_cons_of_mem _ hx)) hts
    rw [List.reverse_cons, List.append_assoc, List.singleton_append] at hB
    rw [List.append_assoc, List.cons_append, hG]
    refine (hA.bind_eq ?_ hB).mono fun hk => ?_
    · simp [after?_cons, hm]
    · rw [heightList_cons] at hk
      omega

theorem heightPairs_cons (e : Expr × Expr) (es : List (Expr × Expr)) :
    Expr.heightPairs (e :: es) = max (max e.1.height e.2.height) (Expr.heightPairs es) := by
  simp [Expr.heightPairs]

theorem toksList_head (a : Expr) (more : List Expr) :
    ∃ tok rest, Expr.toksList (a :: more) = tok :: rest ∧ Starts tok := by
  obtain ⟨tok, rest, h, hs⟩ := toks_head a
  cases more with
  | nil => exact ⟨tok, rest, by simp [Expr.toksList, h], hs⟩
  | cons b more =>
    refine ⟨tok, rest ++ .comma :: Expr.toksList (b :: more), ?_, hs⟩
    rw [Expr.toksList.eq_3 _ _ (List.cons_ne_nil _ _), h, List.cons_append]

theorem toksPairs_head (e : Expr × Expr) (more : List (Expr × Expr)) :
    ∃ tok rest, Expr.toksPairs (e :: more) = tok :: rest ∧ Starts tok := by
  obtain ⟨tok, rest, h, hs⟩ := toks_head e.1
  cases more with
  | nil => exact ⟨tok, rest ++ .colon :: e.2.toks, by simp [Expr.toksPairs, h], hs⟩
  | cons b more =>
    refine ⟨tok, rest ++ .colon :: e.2.toks ++ .comma :: Expr.toksPairs (b :: more), ?_, hs⟩
    rw [Expr.toksPairs.eq_3 _ _ _ (List.cons_ne_nil _ _), h, List.cons_append, List.cons_append]

theorem after?_starting {as : List (Spanned Token)} (tok : Token)
    (h : ∃ t r, as.map (·.value) = t :: r ∧ Starts t) (htok : ¬ Starts tok) (x : Tokens) :
    after? tok (as ++ x) = none := by
  obtain ⟨t, r, hm, hs⟩ := h
  obtain ⟨y, ys, rfl, hy, -⟩ := List.map_eq_cons_iff.mp hm
  have hne : y.value ≠ tok := fun e => htok (by rw [← e, hy]; exact hs)
  rw [List.cons_append, after?_cons, if_neg hne]

theorem call_yields (base : Option Expr) (m : String) {args : List Expr}
    (hargs : ∀ a ∈ args, Primary len a) {xp xr : Spanned Token} {as : List (Spanned Token)}
    (hp : xp.value = .lparen) (has : as.map (·.value) = Expr.toksList args)
    (hr : xr.value = .rparen) (rest : Tokens) (k : Nat) :
    Yields (out (run len (.named base m) (xp :: (as ++ xr :: rest)) k)) (.call base m args) rest
      (k + 1 + 3 * Expr.heightList args ≤ maxDepth) := by
  rw [out_named_call _ k base m (r := as ++ xr :: rest) (by rw [after?_cons, if_pos hp])]
  cases args with
  | nil =>
    simp only [Expr.toksList, List.map_eq_nil_iff] at has
    subst has
    rw [List.nil_append, after?_cons, if_pos hr]
    exact Yields.ok _ _ _
  | cons a more =>
    obtain ⟨tok, toks, htoks, hs⟩ := toksList_head a more
    rw [after?_starting .rparen ⟨tok, toks, has.trans htoks, hs⟩ fun h => h]
    have h := items_yields (.arguments base m) (.call base m)
      (fun r => expected len "',' or ')' in method arguments" r)
      (fun acc ts k => out_arguments ts k base m acc) (.inl rfl) hr rest k (a :: more) [] as
      (List.cons_ne_nil _ _) hargs has
    rwa [List.reverse_nil, List.nil_append] at h

theorem member_prop (b : Expr) {n : String} {xn : Spanned Token} (hn : xn.value = memberToken n)
    {rest : Tokens} (hr : ∀ x ∈ rest.head?, x.value ≠ .lparen) (k : Nat) :
    Yields (out (run len (.member b) (xn :: rest) k)) (.prop (some b) n) rest True := by
  rw [out_member_name xn rest k b (hn ▸ memberToken_ne.1) (hn ▸ memberName_memberToken n),
    out_named_prop rest k (some b) n (after?_of_ne hr)]
  exact Yields.ok _ _ _

theorem member_project (b : Expr) {m : Expr} (hm : Primary len m) {xl xr : Spanned Token}
    {ms : List (Spanned Token)} (hl : xl.value = .lbrace) (hms : ms.map (·.value) = m.toks)
    (hr : xr.value = .rbrace) (rest : Tokens) (k : Nat) :
    Yields (out (run len (.member b) (xl :: (ms ++ xr :: rest)) k)) (.project b m) rest
      (k + 1 + 3 * m.height ≤ maxDepth ∧ True) := by
  obtain ⟨tok, toks, htoks, hs⟩ := toks_head m
  obtain ⟨x, ms', rfl, hx, -⟩ := List.map_eq_cons_iff.mp (hms.trans htoks)
  have hxq : x.value ≠ .question := fun e => by
    rw [e] at hx
    subst hx
    exact hs
  have hq : questionAt ((x :: ms') ++ xr :: rest) =
      (false, ⟨(x :: ms') ++ xr :: rest, Nat.le_refl _⟩) := by
    simp [questionAt, hxq]
  rw [out_member_brace xl _ k b hl, hq]
  exact (hm.asExpr hms (closes_cons (x := xr) (by simp [hr]) rest) 1 k).bind
    (Yields.expect hr (Yields.ok _ _ _))

theorem member_select (b : Expr) {c : Expr} (hc : Primary len c) {xl xq xr : Spanned Token}
    {cs : List (Spanned Token)} (hl : xl.value = .lbrace) (hq : xq.value = .question)
    (hcs : cs.map (·.value) = c.toks) (hr : xr.value = .rbrace) (rest : Tokens) (k : Nat) :
    Yields (out (run len (.member b) (xl :: xq :: (cs ++ xr :: rest)) k)) (.select b c) rest
      (k + 1 + 3 * c.height ≤ maxDepth ∧ True) := by
  have hq' : questionAt (xq :: (cs ++ xr :: rest)) = (true, ⟨cs ++ xr :: rest, by simp⟩) := by
    simp [questionAt, hq]
  rw [out_member_brace xl _ k b hl, hq']
  exact (hc.asExpr hcs (closes_cons (x := xr) (by simp [hr]) rest) 1 k).bind
    (Yields.expect hr (Yields.ok _ _ _))

theorem Primary.index {b i : Expr} (hb : Primary len b) (hi : Primary len i) :
    Primary len (.index b i) := by
  intro ts rest k hts _
  simp only [Expr.toks, List.cons_append, List.append_assoc] at hts
  obtain ⟨x0, ts, rfl, h0, hts⟩ := List.map_eq_cons_iff.mp hts
  obtain ⟨bs, ts, rfl, hbs, hts⟩ := List.map_eq_append_iff.mp hts
  obtain ⟨xl, ts, rfl, hl, hts⟩ := List.map_eq_cons_iff.mp hts
  obtain ⟨is, ts, rfl, his, hts⟩ := List.map_eq_append_iff.mp hts
  obtain ⟨xr, ts, rfl, hr, hts⟩ := List.map_eq_cons_iff.mp hts
  obtain ⟨xc, rfl, hc⟩ := tokens_one hts
  have hcl : Closes (xc :: rest) := closes_cons (by simp [hc]) rest
  rw [show x0 :: (bs ++ xl :: (is ++ [xr, xc])) ++ rest =
    x0 :: (bs ++ xl :: (is ++ xr :: xc :: rest)) by simp]
  refine group_yields h0 hc ((postfix_yields hb hbs (by simp [hl]) hcl
    (suffixes_bracket hi hl hr his hcl.ends (k + 1))).mono fun h => ?_)
  simp only [Expr.height, and_true] at h ⊢
  omega

theorem Primary.prop {b : Expr} (hb : Primary len b) (n : String) :
    Primary len (.prop (some b) n) := by
  intro ts rest k hts _
  simp only [Expr.toks, List.cons_append] at hts
  obtain ⟨x0, ts, rfl, h0, hts⟩ := List.map_eq_cons_iff.mp hts
  obtain ⟨bs, ts, rfl, hbs, hts⟩ := List.map_eq_append_iff.mp hts
  obtain ⟨xd, ts, rfl, hd, hts⟩ := List.map_eq_cons_iff.mp hts
  obtain ⟨xn, ts, rfl, hn, hts⟩ := List.map_eq_cons_iff.mp hts
  obtain ⟨xc, rfl, hc⟩ := tokens_one hts
  have hcl : Closes (xc :: rest) := closes_cons (by simp [hc]) rest
  rw [show x0 :: (bs ++ [xd, xn, xc]) ++ rest = x0 :: (bs ++ xd :: xn :: xc :: rest) by simp]
  refine group_yields h0 hc ((postfix_yields hb hbs (by simp [hd]) hcl
    (suffixes_dot hd (member_prop b hn hcl.ends.noCall (k + 1 + 1)) hcl.ends)).mono fun h => ?_)
  simp only [Expr.height, and_true] at h ⊢
  omega

theorem Primary.project {b m : Expr} (hb : Primary len b) (hm : Primary len m) :
    Primary len (.project b m) := by
  intro ts rest k hts _
  simp only [Expr.toks, List.cons_append, List.append_assoc] at hts
  obtain ⟨x0, ts, rfl, h0, hts⟩ := List.map_eq_cons_iff.mp hts
  obtain ⟨bs, ts, rfl, hbs, hts⟩ := List.map_eq_append_iff.mp hts
  obtain ⟨xd, ts, rfl, hd, hts⟩ := List.map_eq_cons_iff.mp hts
  obtain ⟨xl, ts, rfl, hl, hts⟩ := List.map_eq_cons_iff.mp hts
  obtain ⟨ms, ts, rfl, hms, hts⟩ := List.map_eq_append_iff.mp hts
  obtain ⟨xr, ts, rfl, hr, hts⟩ := List.map_eq_cons_iff.mp hts
  obtain ⟨xc, rfl, hc⟩ := tokens_one hts
  have hcl : Closes (xc :: rest) := closes_cons (by simp [hc]) rest
  rw [show x0 :: (bs ++ xd :: xl :: (ms ++ [xr, xc])) ++ rest =
    x0 :: (bs ++ xd :: xl :: (ms ++ xr :: xc :: rest)) by simp]
  refine group_yields h0 hc ((postfix_yields hb hbs (by simp [hd]) hcl
    (suffixes_dot hd (member_project b hm hl hms hr _ (k + 1 + 1)) hcl.ends)).mono fun h => ?_)
  simp only [Expr.height, and_true] at h ⊢
  omega

theorem Primary.select {b c : Expr} (hb : Primary len b) (hc : Primary len c) :
    Primary len (.select b c) := by
  intro ts rest k hts _
  simp only [Expr.toks, List.cons_append, List.append_assoc] at hts
  obtain ⟨x0, ts, rfl, h0, hts⟩ := List.map_eq_cons_iff.mp hts
  obtain ⟨bs, ts, rfl, hbs, hts⟩ := List.map_eq_append_iff.mp hts
  obtain ⟨xd, ts, rfl, hd, hts⟩ := List.map_eq_cons_iff.mp hts
  obtain ⟨xl, ts, rfl, hl, hts⟩ := List.map_eq_cons_iff.mp hts
  obtain ⟨xq, ts, rfl, hq, hts⟩ := List.map_eq_cons_iff.mp hts
  obtain ⟨cs, ts, rfl, hcs, hts⟩ := List.map_eq_append_iff.mp hts
  obtain ⟨xr, ts, rfl, hr, hts⟩ := List.map_eq_cons_iff.mp hts
  obtain ⟨xc, rfl, hxc⟩ := tokens_one hts
  have hcl : Closes (xc :: rest) := closes_cons (by simp [hxc]) rest
  rw [show x0 :: (bs ++ xd :: xl :: xq :: (cs ++ [xr, xc])) ++ rest =
    x0 :: (bs ++ xd :: xl :: xq :: (cs ++ xr :: xc :: rest)) by simp]
  refine group_yields h0 hxc ((postfix_yields hb hbs (by simp [hd]) hcl
    (suffixes_dot hd (member_select b hc hl hq hcs hr _ (k + 1 + 1)) hcl.ends)).mono fun h => ?_)
  simp only [Expr.height, and_true] at h ⊢
  omega

theorem Primary.call {b : Expr} (hb : Primary len b) (m : String) {args : List Expr}
    (hargs : ∀ a ∈ args, Primary len a) : Primary len (.call (some b) m args) := by
  intro ts rest k hts _
  simp only [Expr.toks, List.cons_append, List.append_assoc] at hts
  obtain ⟨x0, ts, rfl, h0, hts⟩ := List.map_eq_cons_iff.mp hts
  obtain ⟨bs, ts, rfl, hbs, hts⟩ := List.map_eq_append_iff.mp hts
  obtain ⟨xd, ts, rfl, hd, hts⟩ := List.map_eq_cons_iff.mp hts
  obtain ⟨xn, ts, rfl, hn, hts⟩ := List.map_eq_cons_iff.mp hts
  obtain ⟨xp, ts, rfl, hp, hts⟩ := List.map_eq_cons_iff.mp hts
  obtain ⟨as, ts, rfl, has, hts⟩ := List.map_eq_append_iff.mp hts
  obtain ⟨xr, ts, rfl, hr, hts⟩ := List.map_eq_cons_iff.mp hts
  obtain ⟨xc, rfl, hc⟩ := tokens_one hts
  have hcl : Closes (xc :: rest) := closes_cons (by simp [hc]) rest
  have hmember : Yields (out (run len (.member b) (xn :: xp :: (as ++ xr :: xc :: rest)) (k + 1 + 1)))
      (.call (some b) m args) (xc :: rest) (k + 1 + 1 + 1 + 3 * Expr.heightList args ≤ maxDepth) := by
    rw [out_member_name xn _ _ b (hn ▸ memberToken_ne.1) (hn ▸ memberName_memberToken m)]
    exact call_yields (some b) m hargs hp has hr _ _
  rw [show x0 :: (bs ++ xd :: xn :: xp :: (as ++ [xr, xc])) ++ rest =
    x0 :: (bs ++ xd :: xn :: xp :: (as ++ xr :: xc :: rest)) by simp]
  refine group_yields h0 hc ((postfix_yields hb hbs (by simp [hd]) hcl
    (suffixes_dot hd hmember hcl.ends)).mono fun h => ?_)
  simp only [Expr.height, and_true] at h ⊢
  omega

theorem Primary.rootCall (m : String) {args : List Expr} (hargs : ∀ a ∈ args, Primary len a) :
    Primary len (.call none m args) := by
  intro ts rest k hts _
  simp only [Expr.toks, List.cons_append] at hts
  obtain ⟨xi, ts, rfl, hi, hts⟩ := List.map_eq_cons_iff.mp hts
  obtain ⟨xp, ts, rfl, hp, hts⟩ := List.map_eq_cons_iff.mp hts
  obtain ⟨as, ts, rfl, has, hts⟩ := List.map_eq_append_iff.mp hts
  obtain ⟨xr, rfl, hr⟩ := tokens_one hts
  have hn : identName? xi.value = some m := by simp [identName?, hi]
  rw [show xi :: xp :: (as ++ [xr]) ++ rest = xi :: xp :: (as ++ xr :: rest) by simp,
    out_primary_name xi _ k (by simp [atom, hi]) hn]
  refine (call_yields none m hargs hp has hr rest k).mono fun h => ?_
  simp only [Expr.height] at h
  omega

theorem Primary.list {items : List Expr} (h : ∀ a ∈ items, Primary len a) :
    Primary len (.list items) := by
  intro ts rest k hts _
  simp only [Expr.toks, List.cons_append] at hts
  obtain ⟨x0, ts, rfl, h0, hts⟩ := List.map_eq_cons_iff.mp hts
  obtain ⟨as, ts, rfl, has, hts⟩ := List.map_eq_append_iff.mp hts
  obtain ⟨xc, rfl, hc⟩ := tokens_one hts
  rw [show x0 :: (as ++ [xc]) ++ rest = x0 :: (as ++ xc :: rest) by simp,
    out_primary_list x0 _ k (by simp [atom, h0]) h0]
  cases items with
  | nil =>
    simp only [Expr.toksList, List.map_eq_nil_iff] at has
    subst has
    rw [List.nil_append, after?_cons, if_pos hc]
    exact Yields.ok _ _ _
  | cons a more =>
    obtain ⟨tok, toks, htoks, hs⟩ := toksList_head a more
    rw [after?_starting .rbrace ⟨tok, toks, has.trans htoks, hs⟩ fun h => h]
    have hl := items_yields .listItems .list
      (fun r => expected len "',' or '\x7d' in list literal" r)
      (fun acc ts k => out_listItems ts k acc) (.inr rfl) hc rest k (a :: more) [] as
      (List.cons_ne_nil _ _) h has
    rw [List.reverse_nil, List.nil_append] at hl
    refine hl.mono fun hk => ?_
    simp only [Expr.height] at hk
    omega

theorem entries_yields {xc : Spanned Token} (hxc : xc.value = .rbrace) (rest : Tokens) (k : Nat) :
    ∀ (es acc : List (Expr × Expr)) (ts : List (Spanned Token)), es ≠ [] →
      (∀ e ∈ es, Primary len e.1) → (∀ e ∈ es, Primary len e.2) →
      ts.map (·.value) = Expr.toksPairs es →
      Yields (out (run len (.mapEntries acc) (ts ++ xc :: rest) k)) (.map (acc.reverse ++ es)) rest
        (k + 1 + 3 * Expr.heightPairs es ≤ maxDepth)
  | [], _, _, hne, _, _, _ => absurd rfl hne
  | [(key, v)], acc, ts, _, hk, hv, hts => by
    simp only [Expr.toksPairs] at hts
    obtain ⟨ks, ts, rfl, hks, hts⟩ := List.map_eq_append_iff.mp hts
    obtain ⟨xl, vs, rfl, hl, hvs⟩ := List.map_eq_cons_iff.mp hts
    have hK := (hk _ (List.mem_singleton_self _)).asExpr hks
      (closes_cons (x := xl) (by simp [hl]) (vs ++ xc :: rest)) 1 k
    have hV := (hv _ (List.mem_singleton_self _)).asExpr hvs
      (closes_cons (x := xc) (by simp [hxc]) rest) 1 k
    rw [List.append_assoc, List.cons_append, out_mapEntries]
    refine (hK.bind (Yields.expect hl (hV.bind_eq (y := .ok (.map (acc.reverse ++ [(key, v)]), rest))
      ?_ (Yields.ok _ _ True)))).mono fun h => ?_
    · simp [after?_cons, hxc]
    · simp only [Expr.heightPairs, and_true] at h ⊢
      omega
  | (key, v) :: e :: more, acc, ts, _, hk, hv, hts => by
    rw [Expr.toksPairs.eq_3 _ _ _ (List.cons_ne_nil _ _)] at hts
    simp only [List.append_assoc, List.cons_append] at hts
    obtain ⟨ks, ts, rfl, hks, hts⟩ := List.map_eq_append_iff.mp hts
    obtain ⟨xl, ts, rfl, hl, hts⟩ := List.map_eq_cons_iff.mp hts
    obtain ⟨vs, ts, rfl, hvs, hts⟩ := List.map_eq_append_iff.mp hts
    obtain ⟨xm, ts, rfl, hm, hts⟩ := List.map_eq_cons_iff.mp hts
    have hK := (hk _ List.mem_cons_self).asExpr hks
      (closes_cons (x := xl) (by simp [hl]) (vs ++ xm :: (ts ++ xc :: rest))) 1 k
    have hV := (hv _ List.mem_cons_self).asExpr hvs
      (closes_cons (x := xm) (by simp [hm]) (ts ++ xc :: rest)) 1 k
    have hB := entries_yields hxc rest k (e :: more) ((key, v) :: acc) ts (List.cons_ne_nil _ _)
      (fun x hx => hk x (List.mem_cons_of_mem _ hx)) (fun x hx => hv x (List.mem_cons_of_mem _ hx)) hts
    rw [List.reverse_cons, List.append_assoc, List.singleton_append] at hB
    rw [List.append_assoc, List.cons_append, List.append_assoc, List.cons_append, out_mapEntries]
    refine (hK.bind (Yields.expect hl (hV.bind_eq ?_ hB))).mono fun h => ?_
    · simp [after?_cons, hm]
    · rw [heightPairs_cons] at h
      dsimp only at h ⊢
      omega

theorem Primary.map {es : List (Expr × Expr)} (hk : ∀ e ∈ es, Primary len e.1)
    (hv : ∀ e ∈ es, Primary len e.2) : Primary len (.map es) := by
  intro ts rest k hts _
  simp only [Expr.toks, List.cons_append] at hts
  obtain ⟨x0, ts, rfl, h0, hts⟩ := List.map_eq_cons_iff.mp hts
  obtain ⟨as, ts, rfl, has, hts⟩ := List.map_eq_append_iff.mp hts
  obtain ⟨xc, rfl, hc⟩ := tokens_one hts
  rw [show x0 :: (as ++ [xc]) ++ rest = x0 :: (as ++ xc :: rest) by simp,
    out_primary_map x0 _ k (by simp [atom, h0]) h0]
  cases es with
  | nil =>
    simp only [Expr.toksPairs, List.map_eq_nil_iff] at has
    subst has
    rw [List.nil_append, after?_cons, if_pos hc]
    exact Yields.ok _ _ _
  | cons e more =>
    obtain ⟨tok, toks, htoks, hs⟩ := toksPairs_head e more
    rw [after?_starting .rbrace ⟨tok, toks, has.trans htoks, hs⟩ fun h => h]
    have hm := entries_yields hc rest k (e :: more) [] as (List.cons_ne_nil _ _) hk hv has
    rw [List.reverse_nil, List.nil_append] at hm
    refine hm.mono fun h => ?_
    simp only [Expr.height] at h
    omega

theorem primary_of_readable {t : Expr} (hr : t.Readable) : Primary len t := by
  induction hr with
  | lit l => exact Primary.lit l
  | var _ => exact Primary.var _
  | root _ _ => exact Primary.root _
  | prop _ _ ihb => exact ihb.prop _
  | index _ _ ihb ihi => exact ihb.index ihi
  | rootCall _ _ _ iha => exact Primary.rootCall _ iha
  | call _ _ _ ihb iha => exact ihb.call _ iha
  | project _ _ ihb ihm => exact ihb.project ihm
  | select _ _ ihb ihc => exact ihb.select ihc
  | binary _ _ ihl ihr => exact Primary.binary _ ihl ihr
  | unary _ happ ihe => exact ihe.unary happ
  | cond _ _ _ ihc iha ihb => exact ihc.cond iha ihb
  | list _ iha => exact Primary.list iha
  | map _ _ ihk ihv => exact Primary.map ihk ihv

theorem closes_nil : Closes [] := fun _ hx => by simp at hx

theorem parse_eq {s : String} {ts : Tokens} (h : Lexer.scan s = .ok ts) :
    parse s = (out (run s.utf8ByteSize (.expr 1) ts 0)).bind fun p =>
      match p.2 with
      | [] => .ok p.1
      | t :: _ => .error (.unexpectedToken t.value.render t.start) := by
  simp only [parse, h, expr]
  cases run s.utf8ByteSize (.expr 1) ts 0 <;> rfl

theorem parse_print_of_readable {t : Expr} (hr : t.Readable) (hp : ∀ l ∈ t.lits, l.Pointed) :
    (parse t.print = .ok t ∨ ∃ p, parse t.print = .error (.tooDeep maxDepth p)) ∧
      (t.height ≤ 32 → parse t.print = .ok t) := by
  obtain ⟨ts, hs, hv⟩ := Expr.scan_print hr hp
  have hy := (primary_of_readable hr : Primary t.print.utf8ByteSize t).asExpr hv closes_nil 1 0
  rw [List.append_nil] at hy
  obtain ⟨hok | ⟨p, hdeep⟩, hfits⟩ := hy
  · rw [parse_eq hs, hok]
    exact ⟨.inl rfl, fun _ => rfl⟩
  · refine ⟨.inr ⟨p, by rw [parse_eq hs, hdeep]; rfl⟩, fun hh => ?_⟩
    rw [parse_eq hs, hfits (by simp only [maxDepth]; omega)]
    rfl

end TypedExpr.Parser
