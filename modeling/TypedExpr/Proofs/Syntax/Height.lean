import TypedExpr.Proofs.Syntax.Reparse

/-! How tall a parsed tree can be. The nesting counter goes up by one for every prefix operator,
every binary operator of a chain and every postfix link, and down again when the operand or the
chain is done: it measures the path the descent is on, not the height of the tree it builds. -/

namespace TypedExpr

def Expr.baseHeight : Option Expr → Nat
  | none => 0
  | some b => b.height

theorem Expr.height_prop (b : Option Expr) (n : String) :
    (Expr.prop b n).height = Expr.baseHeight b + 1 := by
  cases b <;> simp [Expr.height, Expr.baseHeight]

theorem Expr.height_call (b : Option Expr) (m : String) (args : List Expr) :
    (Expr.call b m args).height = max (Expr.baseHeight b) (Expr.heightList args) + 1 := by
  cases b <;> simp [Expr.height, Expr.baseHeight]

theorem Expr.height_pos (e : Expr) : 0 < e.height := by
  cases e with
  | prop b n => rw [Expr.height_prop]; omega
  | call b m args => rw [Expr.height_call]; omega
  | _ => simp [Expr.height]

theorem Expr.heightList_le {es : List Expr} {n : Nat} :
    Expr.heightList es ≤ n ↔ ∀ e ∈ es, e.height ≤ n := by
  induction es with
  | nil => simp [Expr.heightList]
  | cons e es ih => simp [Expr.heightList, ih]

theorem Expr.heightPairs_le {es : List (Expr × Expr)} {n : Nat} :
    Expr.heightPairs es ≤ n ↔ ∀ e ∈ es, e.1.height ≤ n ∧ e.2.height ≤ n := by
  induction es with
  | nil => simp [Expr.heightPairs]
  | cons e es ih =>
    obtain ⟨a, b⟩ := e
    simp [Expr.heightPairs, ih, and_assoc]

namespace Parser

def Goal.budget (d : Nat) : Goal → Nat
  | .expr _ => d ^ 2
  | .climb left _ => max left.height ((d - 1) ^ 2) + (d - 1)
  | .unary => d ^ 2 - (d - 1)
  | .operand => d ^ 2 + d + 1
  | .primary => d ^ 2 + 1
  | .listItems acc => max (Expr.heightList acc) (d ^ 2) + 1
  | .mapEntries acc => max (Expr.heightPairs acc) (d ^ 2) + 1
  | .named base _ => max (Expr.baseHeight base) (d ^ 2) + 1
  | .arguments base _ acc => max (Expr.baseHeight base) (max (Expr.heightList acc) (d ^ 2)) + 1
  | .suffixes left => max left.height ((d - 1) ^ 2) + d
  | .member base => max base.height (d ^ 2) + 1

theorem sq_succ (m : Nat) : (m + 1) ^ 2 = m ^ 2 + 2 * m + 1 := by
  rw [Nat.pow_two, Nat.pow_two, Nat.add_mul, Nat.mul_add, Nat.mul_one, Nat.one_mul]
  omega

theorem sq_pred_le (d : Nat) : (d - 1) ^ 2 ≤ d ^ 2 := Nat.pow_le_pow_left (Nat.sub_le d 1) 2

theorem levels_succ (k : Nat) : maxDepth - (k + 1) = maxDepth - k - 1 := by omega

theorem height_applyUnary_le (op : UnOp) (e : Expr) :
    (applyUnary op e).height ≤ e.height + 1 := by
  rcases applyUnary_cases op e with h | ⟨l, h⟩
  · rw [h]
    simp [Expr.height]
  · rw [h]
    simp [Expr.height]

theorem atom_height {t : Spanned Token} {e : Expr} (h : atom t = some (.ok e)) : e.height = 1 := by
  unfold atom at h
  split at h
  · split at h
    · cases h
      rfl
    · cases h
  · split at h
    · cases h
      rfl
    · cases h
  · cases hu : unescape (t.start + 1) _ with
    | error => rw [hu] at h; cases h
    | ok v => rw [hu] at h; cases h; rfl
  all_goals (cases h <;> rfl)

variable (len : Nat)

def Within (g : Goal) (ts : Tokens) (k : Nat) : Prop :=
  ∀ {e : Expr} {rest : Tokens}, out (run len g ts k) = .ok (e, rest) →
    e.height ≤ g.budget (maxDepth - k)

variable {len}

theorem Within.peel {g : Goal} {ts : Tokens} {k : Nat} (hw : Within len g ts k)
    {F : Expr × Tokens → Except ParseError (Expr × Tokens)} {v : Expr × Tokens}
    (h : (out (run len g ts k)).bind F = .ok v) :
    ∃ p : Parsed ts,
      p.tree.height ≤ g.budget (maxDepth - k) ∧ F (p.tree, p.rest) = .ok v := by
  obtain ⟨⟨e1, r1⟩, h1, h2⟩ := bind_eq_ok.mp h
  obtain ⟨p, -, rfl, rfl⟩ := out_eq_ok h1
  exact ⟨p, hw h1, h2⟩

theorem expect_then {tok : Token} {ts : Tokens} {G : Tokens → Except ParseError (Expr × Tokens)}
    {v : Expr × Tokens} (h : ((expect len tok ts).map (·.val)).bind G = .ok v) :
    ∃ r : { r : Tokens // r.length < ts.length }, G r.val = .ok v := by
  obtain ⟨r1, h1, h2⟩ := bind_eq_ok.mp h
  cases he : expect len tok ts with
  | error => rw [he] at h1; cases h1
  | ok r =>
    rw [he] at h1
    cases h1
    exact ⟨r, h2⟩

theorem within_of_error {g : Goal} {ts : Tokens} {k : Nat} {err : ParseError}
    (h : out (run len g ts k) = .error err) : Within len g ts k := by
  intro e rest h'
  rw [h] at h'
  cases h'

theorem within_of_ok {g : Goal} {ts : Tokens} {k : Nat} {a : Expr} {r : Tokens}
    (h : out (run len g ts k) = .ok (a, r)) (ha : a.height ≤ g.budget (maxDepth - k)) :
    Within len g ts k := by
  intro e rest h'
  rw [h] at h'
  cases h'
  exact ha

section Steps

variable {ts : Tokens} {k : Nat}

theorem within_expr {min : Nat} (hu : Within len .unary ts k)
    (hc : ∀ p : Parsed ts, Within len (.climb p.tree min) p.rest k) :
    Within len (.expr min) ts k := by
  intro e rest h
  rw [out_expr] at h
  obtain ⟨p, hp, h⟩ := hu.peel h
  have he := hc p h
  have hpos := p.tree.height_pos
  simp only [Goal.budget] at hp he ⊢
  cases hd : maxDepth - k with
  | zero => rw [hd] at hp; simp at hp; omega
  | succ m =>
    rw [hd, Nat.add_sub_cancel] at hp he
    have := sq_succ m
    omega

theorem chain_step {l r d : Nat} (hr : 0 < r) (hrd : r ≤ (d - 1) ^ 2) :
    max (max l r + 1) ((d - 1 - 1) ^ 2) + (d - 1 - 1) ≤ max l ((d - 1) ^ 2) + (d - 1) := by
  have := sq_pred_le (d - 1)
  have hd : 2 ≤ d := by
    rcases Nat.lt_or_ge d 2 with h | h
    · have : d - 1 = 0 := by omega
      rw [this] at hrd
      simp at hrd
      omega
    · exact h
  omega

theorem within_climb_binary {left : Expr} {min prec : Nat} {o : BinOp}
    {r : { r : Tokens // r.length < ts.length }} (hop : operatorAt ts = some (prec, some o, r))
    (hp : ¬prec < min) (hk : ¬maxDepth ≤ k) (hr : Within len (.expr (prec + 1)) r.val (k + 1))
    (hc : ∀ right : Parsed r.val,
      Within len (.climb (.binary o left right.tree) min) right.rest (k + 1)) :
    Within len (.climb left min) ts k := by
  intro e rest h
  rw [out_climb_binary len left min k hop (by omega) (by omega)] at h
  obtain ⟨p, hpr, h⟩ := hr.peel h
  have he := hc p h
  simp only [Goal.budget, levels_succ, Expr.height] at hpr he ⊢
  exact Nat.le_trans he (chain_step p.tree.height_pos hpr)

theorem within_climb_cond {left : Expr} {min prec : Nat}
    {r : { r : Tokens // r.length < ts.length }} (hop : operatorAt ts = some (prec, none, r))
    (hp : ¬prec < min) (hk : ¬maxDepth ≤ k) (hyes : Within len (.expr 1) r.val (k + 1))
    (hno : ∀ (yes : Parsed r.val) (r2 : { r2 : Tokens // r2.length < yes.rest.length }),
      Within len (.expr 1) r2.val (k + 1))
    (hc : ∀ (yes : Parsed r.val) (r2 : { r2 : Tokens // r2.length < yes.rest.length })
      (no : Parsed r2.val), Within len (.climb (left.cond yes.tree no.tree) min) no.rest (k + 1)) :
    Within len (.climb left min) ts k := by
  intro e rest h
  rw [out_climb_cond len left min k hop (by omega) (by omega)] at h
  obtain ⟨yes, hy, h⟩ := hyes.peel h
  obtain ⟨r2, h⟩ := expect_then h
  obtain ⟨no, hn, h⟩ := Within.peel (hno yes r2) h
  have he := hc yes r2 no h
  simp only [Goal.budget, levels_succ, Expr.height] at hy hn he ⊢
  have hb : max yes.tree.height no.tree.height ≤ (maxDepth - k - 1) ^ 2 :=
    Nat.max_le.mpr ⟨hy, hn⟩
  have hpos := Nat.lt_of_lt_of_le yes.tree.height_pos (Nat.le_max_left _ no.tree.height)
  exact Nat.le_trans he (chain_step hpos hb)

theorem within_operand_primary (hu : unaryAt ts = none) (hp : Within len .primary ts k)
    (hs : ∀ p : Parsed ts, Within len (.suffixes p.tree) p.rest k) :
    Within len .operand ts k := by
  intro e rest h
  rw [out_operand_primary k hu] at h
  obtain ⟨p, hpb, h⟩ := hp.peel h
  have he := hs p h
  have := sq_pred_le (maxDepth - k)
  simp only [Goal.budget] at hpb he ⊢
  omega

theorem within_operand_op {op : UnOp} {r : { r : Tokens // r.length < ts.length }}
    (hu : unaryAt ts = some (op, r))
    (hm : ∀ r' : { r' : Tokens // r'.length < r.val.length }, op = .neg →
      minMagnitudeAt r.val = some r' → False)
    (hx : Within len .unary r.val k) : Within len .operand ts k := by
  intro e rest h
  have hmin : op = .neg → minMagnitudeAt r.val = none := fun hn =>
    Option.eq_none_iff_forall_ne_some.mpr fun r' => hm r' hn
  rw [out_operand_op k hu hmin] at h
  rcases hx' : out (run len .unary r.val k) with _ | ⟨ve, vr⟩
  · rw [hx'] at h
    cases h
  · rw [hx'] at h
    cases h
    have hv := hx hx'
    have := height_applyUnary_le op ve
    simp only [Goal.budget] at hv ⊢
    omega

theorem within_unary (hk : ¬maxDepth ≤ k) (ho : Within len .operand ts (k + 1)) :
    Within len .unary ts k := by
  intro e rest h
  rw [out_unary, if_neg hk] at h
  have he := ho h
  simp only [Goal.budget, levels_succ] at he ⊢
  obtain ⟨m, hm⟩ : ∃ m, maxDepth - k = m + 1 := Nat.exists_eq_succ_of_ne_zero (by omega)
  rw [hm, Nat.add_sub_cancel] at he ⊢
  have := sq_succ m
  omega

theorem within_primary_name {t : Spanned Token} {rest : Tokens} {name : String}
    (ha : atom t = none) (hi : identName? t.value = some name)
    (hn : Within len (.named none name) rest k) : Within len .primary (t :: rest) k := by
  intro e r h
  rw [out_primary_name t rest k ha hi] at h
  have he := hn h
  simp only [Goal.budget, Expr.baseHeight] at he ⊢
  omega

theorem within_group {t : Spanned Token} {rest : Tokens} (ha : atom t = none)
    (hl : t.value = .lparen) (hx : Within len (.expr 1) rest k) :
    Within len .primary (t :: rest) k := by
  intro e r h
  rw [out_primary_group t rest k ha hl] at h
  obtain ⟨p, hp, h⟩ := hx.peel h
  obtain ⟨r2, h⟩ := expect_then h
  cases h
  simp only [Goal.budget] at hp ⊢
  omega

theorem within_items (G : List Expr → Goal) (build : List Expr → Expr) {closer : Token}
    (err : Tokens → ParseError) (base : Nat)
    (hG : ∀ acc ts k, out (run len (G acc) ts k) =
      (out (run len (.expr 1) ts k)).bind fun p =>
        match after? .comma p.2 with
        | some r => out (run len (G (p.1 :: acc)) r k)
        | none =>
          match after? closer p.2 with
          | some r => .ok (build (p.1 :: acc).reverse, r)
          | none => .error (err p.2))
    (hbudget : ∀ acc d, (G acc).budget d = max base (max (Expr.heightList acc) (d ^ 2)) + 1)
    (hbuild : ∀ items, (build items).height = max base (Expr.heightList items) + 1)
    {acc : List Expr} (hx : Within len (.expr 1) ts k)
    (hnext : ∀ (p : Parsed ts) (r : { r : Tokens // r.length < p.rest.length }),
      Within len (G (p.tree :: acc)) r.val k) :
    Within len (G acc) ts k := by
  intro e rest h
  rw [hG] at h
  obtain ⟨p, hp, h⟩ := hx.peel h
  simp only [Goal.budget] at hp
  dsimp only at h
  split at h
  · -- a comma: the next item
    rename_i r hr
    obtain ⟨r', hr', rfl⟩ := after?_some hr
    have he := hnext p r' h
    rw [hbudget, heightList_cons] at he
    rw [hbudget]
    omega
  · split at h
    · cases h
      rw [hbuild, hbudget]
      have hl :
          Expr.heightList (p.tree :: acc).reverse ≤ max p.tree.height (Expr.heightList acc) :=
        Expr.heightList_le.mpr fun a ha =>
          Expr.heightList_le.mp (Nat.le_of_eq (heightList_cons p.tree acc)) a
            (List.mem_reverse.mp ha)
      omega
    · cases h

theorem within_mapEntries {acc : List (Expr × Expr)} (hkey : Within len (.expr 1) ts k)
    (hval : ∀ (key : Parsed ts) (r1 : { r : Tokens // r.length < key.rest.length }),
      Within len (.expr 1) r1.val k)
    (hnext : ∀ (key : Parsed ts) (r1 : { r : Tokens // r.length < key.rest.length })
      (value : Parsed r1.val) (r : { r : Tokens // r.length < value.rest.length }),
      Within len (.mapEntries ((key.tree, value.tree) :: acc)) r.val k) :
    Within len (.mapEntries acc) ts k := by
  intro e rest h
  rw [out_mapEntries] at h
  obtain ⟨key, hk, h⟩ := hkey.peel h
  obtain ⟨r1, h⟩ := expect_then h
  obtain ⟨value, hv, h⟩ := Within.peel (hval key r1) h
  simp only [Goal.budget] at hk hv ⊢
  dsimp only at h
  split at h
  · -- a comma: the next entry
    rename_i r hr
    obtain ⟨r', hr', rfl⟩ := after?_some hr
    have he := hnext key r1 value r' h
    simp only [Goal.budget, heightPairs_cons] at he
    omega
  · split at h
    · cases h
      have hl : Expr.heightPairs ((key.tree, value.tree) :: acc).reverse ≤
          max (max key.tree.height value.tree.height) (Expr.heightPairs acc) :=
        Expr.heightPairs_le.mpr fun a ha =>
          Expr.heightPairs_le.mp (Nat.le_of_eq (heightPairs_cons _ acc)) a (List.mem_reverse.mp ha)
      simp only [Expr.height]
      omega
    · cases h

theorem within_suffixes_member {t : Spanned Token} {rest : Tokens} {left : Expr}
    (hd : t.value = .dot) (hk : ¬maxDepth ≤ k) (hm : Within len (.member left) rest (k + 1))
    (hs : ∀ p : Parsed rest, Within len (.suffixes p.tree) p.rest (k + 1)) :
    Within len (.suffixes left) (t :: rest) k := by
  intro e r h
  rw [out_suffixes_member t rest k left hd, if_neg hk] at h
  obtain ⟨p, hp, h⟩ := hm.peel h
  have he := hs p h
  have := sq_pred_le (maxDepth - k - 1)
  simp only [Goal.budget, levels_succ] at hp he ⊢
  omega

theorem within_suffixes_index {t : Spanned Token} {rest : Tokens} {left : Expr}
    (hb : t.value = .lbracket) (hk : ¬maxDepth ≤ k) (hi : Within len (.expr 1) rest (k + 1))
    (hs : ∀ (i : Parsed rest) (r : { r : Tokens // r.length < i.rest.length }),
      Within len (.suffixes (left.index i.tree)) r.val (k + 1)) :
    Within len (.suffixes left) (t :: rest) k := by
  intro e r h
  rw [out_suffixes_index t rest k left hb, if_neg hk] at h
  obtain ⟨i, hi, h⟩ := hi.peel h
  obtain ⟨r2, h⟩ := expect_then h
  have he := hs i r2 h
  have := sq_pred_le (maxDepth - k - 1)
  simp only [Goal.budget, levels_succ, Expr.height] at hi he ⊢
  omega

theorem within_member_brace {t : Spanned Token} {rest : Tokens} {base : Expr}
    (hb : t.value = .lbrace) {selecting : Bool} {r : { r : Tokens // r.length ≤ rest.length }}
    (hq : questionAt rest = (selecting, r)) (hx : Within len (.expr 1) r.val k) :
    Within len (.member base) (t :: rest) k := by
  intro e r' h
  rw [out_member_brace t rest k base hb, hq] at h
  obtain ⟨p, hp, h⟩ := hx.peel h
  obtain ⟨r2, h⟩ := expect_then h
  cases h
  simp only [Goal.budget] at hp ⊢
  cases selecting <;> simp only [Bool.false_eq_true, ↓reduceIte, Expr.height] <;> omega

theorem within_member_name {t : Spanned Token} {rest : Tokens} {base : Expr}
    {name : String} (hb : t.value ≠ .lbrace) (hm : memberName? t.value = some name)
    (hn : Within len (.named (some base) name) rest k) :
    Within len (.member base) (t :: rest) k := by
  intro e r h
  rw [out_member_name t rest k base hb hm] at h
  exact hn h

theorem within_named_arguments {base : Option Expr} {name : String}
    {r : { r : Tokens // r.length < ts.length }} (hlp : tokenAt .lparen ts = some r)
    (hrp : tokenAt .rparen r.val = none) (hx : Within len (.arguments base name []) r.val k) :
    Within len (.named base name) ts k := by
  intro e rest h
  rw [out_named_call ts k base name (r := r.val) (by simp [after?, hlp])] at h
  rw [show after? .rparen r.val = none by simp [after?, hrp]] at h
  have he := hx h
  simp only [Goal.budget, Expr.heightList] at he ⊢
  omega

end Steps

theorem within (g : Goal) (ts : Tokens) (k : Nat) : Within len g ts k := by
  induction g, ts, k using run.induct with
  -- expressions and the climb over binary operators
  | case1 _ k min hu hc => exact within_expr hu hc
  | case2 _ k left min hop =>
    refine within_of_ok (out_climb_none len left min k hop) ?_
    simp only [Goal.budget]
    omega
  | case3 _ k left min _ _ _ hop _ hp =>
    refine within_of_ok (out_climb_low len left min k hop hp) ?_
    simp only [Goal.budget]
    omega
  | case4 _ k left min _ _ _ hop _ hp hk =>
    exact within_of_error (out_climb_deep len left min k hop (by omega) hk)
  | case5 _ _ _ _ _ _ _ hp hk hop hyes hno hc => exact within_climb_cond hop hp hk hyes hno hc
  | case6 _ _ _ _ _ _ _ hp hk _ hop hr hc => exact within_climb_binary hop hp hk hr hc
  -- prefix operators and operands
  | case7 ts k hk => exact within_of_error (by rw [out_unary, if_pos hk])
  | case8 ts k hk ho => exact within_unary hk ho
  | case9 _ _ hu hp hs => exact within_operand_primary hu hp hs
  | case10 _ k _ _ _ hm hu =>
    refine within_of_ok (out_operand_min k hu hm) ?_
    simp only [Goal.budget, Expr.height]
    omega
  | case11 _ _ _ _ hu _ hm hx => exact within_operand_op hu hm hx
  -- primaries
  | case12 ts k hu =>
    rw [uncons_none hu]
    exact within_of_error (out_primary_end k)
  | case13 _ k t rest _ hu _ ha =>
    rw [uncons_some hu]
    refine within_of_ok (out_primary_atom t rest k ha) ?_
    have := atom_height ha
    simp only [Goal.budget]
    omega
  | case14 _ k t rest _ hu _ ha =>
    rw [uncons_some hu]
    exact within_of_error (out_primary_atomError t rest k ha)
  | case15 _ _ _ _ _ hu ha _ hi hn =>
    rw [uncons_some hu]
    exact within_primary_name ha hi hn
  | case16 _ _ _ _ _ hu ha _ hl hx =>
    rw [uncons_some hu]
    exact within_group ha hl hx
  | case17 _ k t rest _ hu ha _ _ hl r hr =>
    rw [uncons_some hu]
    refine within_of_ok (a := .list []) (r := r.val) ?_ ?_
    · rw [out_primary_list t rest k ha hl,
        show after? .rbrace rest = some r.val by simp [after?, hr]]
    · simp only [Goal.budget, Expr.height, Expr.heightList]
      omega
  | case18 _ k t rest _ hu ha _ _ hl hr hx =>
    rw [uncons_some hu]
    intro e r h
    rw [out_primary_list t rest k ha hl, show after? .rbrace rest = none by simp [after?, hr]] at h
    have he := hx h
    simp only [Goal.budget, Expr.heightList] at he ⊢
    omega
  | case19 _ k t rest _ hu ha _ _ _ hm r hr =>
    rw [uncons_some hu]
    refine within_of_ok (a := .map []) (r := r.val) ?_ ?_
    · rw [out_primary_map t rest k ha hm,
        show after? .rbrace rest = some r.val by simp [after?, hr]]
    · simp only [Goal.budget, Expr.height, Expr.heightPairs]
      omega
  | case20 _ k t rest _ hu ha _ _ _ hm hr hx =>
    rw [uncons_some hu]
    intro e r h
    rw [out_primary_map t rest k ha hm, show after? .rbrace rest = none by simp [after?, hr]] at h
    have he := hx h
    simp only [Goal.budget, Expr.heightPairs] at he ⊢
    omega
  | case21 _ k t rest _ hu ha hi h1 h2 h3 =>
    rw [uncons_some hu]
    exact within_of_error (out_primary_other t rest k ha hi h1 h2 h3)
  -- sequences
  | case22 _ _ _ hx hnext =>
    exact within_items .listItems .list _ 0 (fun acc ts k => out_listItems ts k acc)
      (fun _ _ => by simp [Goal.budget]) (fun _ => by simp [Expr.height]) hx hnext
  | case23 _ _ _ hkey hval hnext => exact within_mapEntries hkey hval hnext
  | case24 ts k base name hlp =>
    refine within_of_ok (out_named_prop ts k base name (by simp [after?, hlp])) ?_
    simp only [Goal.budget, Expr.height_prop]
    omega
  | case25 ts k base name r hlp _ r' hrp =>
    refine within_of_ok (a := .call base name []) (r := r'.val) ?_ ?_
    · rw [out_named_call ts k base name (r := r.val) (by simp [after?, hlp]),
        show after? .rparen r.val = some r'.val by simp [after?, hrp]]
    · simp only [Goal.budget, Expr.height_call, Expr.heightList]
      omega
  | case26 _ _ _ _ _ hlp _ hrp hx => exact within_named_arguments hlp hrp hx
  | case27 _ _ base name _ hx hnext =>
    exact within_items (.arguments base name) (.call base name) _ (Expr.baseHeight base)
      (fun acc ts k => out_arguments ts k base name acc) (fun _ _ => rfl)
      (fun _ => Expr.height_call _ _ _) hx hnext
  -- postfix chains
  | case28 ts k left hu =>
    rw [uncons_none hu]
    refine within_of_ok (out_suffixes_end k left) ?_
    simp only [Goal.budget]
    omega
  | case29 _ k left t rest _ hu hd hk =>
    rw [uncons_some hu]
    exact within_of_error (by rw [out_suffixes_member t rest k left hd, if_pos hk])
  | case30 _ _ _ _ _ _ hu hd hk hm hs =>
    rw [uncons_some hu]
    exact within_suffixes_member hd hk hm hs
  | case31 _ k left t rest _ hu _ hb hk =>
    rw [uncons_some hu]
    exact within_of_error (by rw [out_suffixes_index t rest k left hb, if_pos hk])
  | case32 _ _ _ _ _ _ hu _ hb hk hi hs =>
    rw [uncons_some hu]
    exact within_suffixes_index hb hk hi hs
  | case33 _ k left t rest _ hu h1 h2 =>
    rw [uncons_some hu]
    refine within_of_ok (out_suffixes_stop t rest k left h1 h2) ?_
    simp only [Goal.budget]
    omega
  -- members after a dot
  | case34 ts k base hu =>
    rw [uncons_none hu]
    exact within_of_error (out_member_end k base)
  | case35 _ _ _ _ _ _ hu hb _ _ hq _ hx =>
    rw [uncons_some hu]
    exact within_member_brace hb hq hx
  | case36 _ _ _ _ _ _ hu hb _ hm hn =>
    rw [uncons_some hu]
    exact within_member_name hb hm hn
  | case37 _ k base t rest _ hu hb hm =>
    rw [uncons_some hu]
    exact within_of_error (out_member_bad t rest k base hb hm)

/-- Every tree the parser gives back is at most as high as the square of the nesting limit. -/
theorem parse_height_le {s : String} {t : Expr} (h : parse s = .ok t) :
    t.height ≤ maxDepth ^ 2 := by
  cases hs : Lexer.scan s with
  | error e => simp [parse, hs] at h
  | ok ts =>
    rw [parse_eq hs, bind_eq_ok] at h
    obtain ⟨⟨e, rest⟩, h1, h2⟩ := h
    have he := within (.expr 1) ts 0 h1
    dsimp only at h2
    split at h2
    · cases h2
      simpa [Goal.budget] using he
    · cases h2

/-! A deep operand followed by a chain. Each prefix `!` takes one level and hands it back when
its operand is read, so the operator after the operand is read from level zero again. -/

theorem height_iterate_unary (op : UnOp) (e : Expr) (n : Nat) :
    ((Expr.unary op)^[n] e).height = e.height + n := by
  induction n with
  | zero => rfl
  | succ n ih =>
    rw [Function.iterate_succ_apply', Expr.height, ih]
    omega

theorem applyUnary_not (e : Expr) : applyUnary .not e = .unary .not e := by
  cases e <;> rfl

theorem out_unary_name {x : Spanned Token} {name : String} (hx : x.value = .ident name)
    {rest : Tokens} (hr : Ends rest) {k : Nat} (hk : k < maxDepth) :
    out (run len .unary (x :: rest) k) = .ok (.prop none name, rest) := by
  have hi : identName? x.value = some name := by simp [identName?, hx]
  rw [out_unary, if_neg (by omega), out_operand_primary _ (unaryAt_starts (by rw [hx]; trivial) _),
    out_primary_name x rest _ (by simp [atom, hx]) hi,
    out_named_prop rest _ none name (after?_of_ne hr.noCall)]
  exact out_suffixes_ends _ hr _

theorem out_nots_name {x : Spanned Token} {name : String} (hx : x.value = .ident name)
    {rest : Tokens} (hr : Ends rest) :
    ∀ (n : Nat) (ns : Tokens) (k : Nat), ns.map (·.value) = List.replicate n .not →
      k + n < maxDepth →
      out (run len .unary (ns ++ x :: rest) k) =
        .ok ((Expr.unary .not)^[n] (.prop none name), rest)
  | 0, ns, k, hns, hk => by
    rw [List.map_eq_nil_iff.mp hns, List.nil_append]
    exact out_unary_name hx hr hk
  | n + 1, ns, k, hns, hk => by
    obtain ⟨y, ns, rfl, hy, hns⟩ := List.map_eq_cons_iff.mp hns
    have hun : unaryAt (y :: (ns ++ x :: rest)) = some (.not, ⟨ns ++ x :: rest, by simp⟩) := by
      simp [unaryAt, hy]
    rw [List.cons_append, out_unary, if_neg (by omega),
      out_operand_op _ hun fun h => UnOp.noConfusion h,
      out_nots_name hx hr n ns (k + 1) hns (by omega), Function.iterate_succ_apply',
      ← applyUnary_not]
    rfl

theorem out_nots_binary {op : BinOp} {r : Expr} (hr : Primary len r) {x : Spanned Token}
    {name : String} (hx : x.value = .ident name) {n : Nat} {ns os rs rest : Tokens}
    (hns : ns.map (·.value) = List.replicate n .not) (hos : os.map (·.value) = op.toks)
    (hrs : rs.map (·.value) = r.toks) (hrest : Closes rest) (hn : n < maxDepth)
    (hfit : 2 + 3 * r.height ≤ maxDepth) :
    out (run len (.expr 1) (ns ++ x :: (os ++ (rs ++ rest))) 0) =
      .ok (.binary op ((Expr.unary .not)^[n] (.prop none name)) r, rest) := by
  obtain ⟨prec, hp, h, hop⟩ := operatorAt_toks hos (rs ++ rest)
  have hclimb : Yields (out (run len (.climb ((Expr.unary .not)^[n] (.prop none name)) 1)
      (os ++ (rs ++ rest)) 0)) (.binary op ((Expr.unary .not)^[n] (.prop none name)) r) rest
      (2 + 3 * r.height ≤ maxDepth) := by
    rw [out_climb_binary len _ 1 0 hop hp (by decide)]
    exact ((hr.asExpr hrs hrest (prec + 1) 1).bind (climb_closes _ hrest 1 1)).mono
      fun h => ⟨by omega, trivial⟩
  rw [out_expr, out_nots_name hx (ends_toks_op hos _) n ns 0 hns (by omega)]
  exact hclimb.2 hfit

theorem reads_nots (n : Nat) (rest : List Char) (hr : ∀ c ∈ rest.head?, c ≠ '=') :
    Lexer.Reads (List.replicate n '!') (List.replicate n .not) rest := by
  induction n with
  | zero => exact Lexer.Reads.nil rest
  | succ n ih =>
    have hh : ∀ c ∈ (List.replicate n '!' ++ rest).head?, c ≠ '=' := by
      cases n with
      | zero => simpa using hr
      | succ n => simp [List.replicate_succ]
    rw [List.replicate_succ, List.replicate_succ, ← List.singleton_append,
      ← List.singleton_append (l := List.replicate n Token.not)]
    exact (Lexer.reads_opSymbol .not hh).append ih

theorem scan_nots_add (n : Nat) :
    ∃ ns x os bs, Lexer.scan (String.ofList (List.replicate n '!') ++ "a+b") =
      .ok (ns ++ x :: (os ++ bs)) ∧ ns.map (·.value) = List.replicate n .not ∧
      x.value = .ident "a" ∧ os.map (·.value) = BinOp.add.toks ∧
      bs.map (·.value) = (Expr.prop none "b").toks := by
  have hplus : ∀ c ∈ (['+'] ++ ['b'] ++ []).head?, Text.isIdContinue c = false := by
    intro c hc
    simp at hc
    subst hc
    decide
  have ha : Lexer.Reads ['a'] [memberToken "a"] (['+'] ++ ['b'] ++ []) :=
    Lexer.reads_word (n := "a") ⟨'a', [], rfl, by decide, by simp⟩ hplus
  have hp : Lexer.Reads ['+'] [.plus] (['b'] ++ []) := Lexer.reads_single (by decide) fun _ => rfl
  have hb : Lexer.Reads ['b'] [memberToken "b"] [] :=
    Lexer.reads_word (n := "b") ⟨'b', [], rfl, by decide, by simp⟩ (by simp)
  have hread : Lexer.Reads (List.replicate n '!' ++ ('a' :: (['+'] ++ ['b'])))
      (List.replicate n .not ++ (memberToken "a" :: ([.plus] ++ [memberToken "b"]))) [] :=
    (reads_nots n ('a' :: (['+'] ++ ['b']) ++ []) (by simp)).append (ha.append (hp.append hb))
  obtain ⟨pos, new, hv, e⟩ := hread 0 []
  obtain ⟨ns, more, rfl, hns, h1⟩ := List.map_eq_append_iff.mp hv
  obtain ⟨x, more, rfl, hx, h2⟩ := List.map_eq_cons_iff.mp h1
  obtain ⟨os, bs, rfl, hos, hbs⟩ := List.map_eq_append_iff.mp h2
  refine ⟨ns, x, os, bs, ?_, hns, hx.trans (by decide), hos, hbs.trans (by decide)⟩
  rw [Lexer.scan, show (String.ofList (List.replicate n '!') ++ "a+b").toList =
    List.replicate n '!' ++ ('a' :: (['+'] ++ ['b'])) ++ [] by simp, e, scanFrom_nil]
  simp

theorem parse_nots_add (n : Nat) (hn : n < maxDepth) :
    parse (String.ofList (List.replicate n '!') ++ "a+b") =
      .ok (.binary .add ((Expr.unary .not)^[n] (.prop none "a")) (.prop none "b")) := by
  obtain ⟨ns, x, os, bs, hs, hns, hx, hos, hbs⟩ := scan_nots_add n
  rw [parse_eq hs, ← List.append_nil bs, out_nots_binary (Primary.root "b") hx hns hos hbs
    closes_nil hn (by simp [Expr.height, maxDepth])]
  rfl

theorem parse_height_le_deep_chain :
    parse (String.ofList (List.replicate 127 '!') ++ "a+b") =
        .ok (.binary .add ((Expr.unary .not)^[127] (.prop none "a")) (.prop none "b")) ∧
      (Expr.binary .add ((Expr.unary .not)^[127] (.prop none "a")) (.prop none "b")).height ≤
        maxDepth ^ 2 :=
  have h := parse_nots_add 127 (by decide)
  ⟨h, parse_height_le h⟩

theorem parse_deep_operand_chain :
    parse (String.ofList (List.replicate 127 '!') ++ "a+b") =
        .ok (.binary .add ((Expr.unary .not)^[127] (.prop none "a")) (.prop none "b")) ∧
      (Expr.binary .add ((Expr.unary .not)^[127] (.prop none "a")) (.prop none "b")).height =
        maxDepth + 1 := by
  refine ⟨parse_nots_add 127 (by decide), ?_⟩
  rw [Expr.height, height_iterate_unary]
  simp [Expr.height, maxDepth]

end Parser

end TypedExpr
