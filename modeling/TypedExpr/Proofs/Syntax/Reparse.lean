import TypedExpr.Proofs.Syntax.RoundTrip

/-! What the parser gives back. The scanner reads every name as a word, and reads a word as its
reserved word when it is one; from such tokens the parser builds readable trees only, which an
induction along the recursion of `run` shows. -/

namespace TypedExpr

def Token.Clean : Token → Prop
  | .ident n => Word n ∧ Token.keyword? n = none
  | .var n => Word n
  | _ => True

def Token.named : Token → Bool
  | .ident _ | .var _ => true
  | _ => false

theorem Token.clean_of_named {t : Token} (h : t.named = false) : t.Clean := by
  cases t <;> simp_all [Token.named, Token.Clean]

theorem Token.clean_of_keyword {n : String} {t : Token} (h : Token.keyword? n = some t) :
    t.Clean := by
  have hk : ∀ e ∈ Token.keywords, e.2.named = false := by decide
  exact Token.clean_of_named (hk _ (Parser.keyword_mem h))

namespace Lexer
open Text

theorem word_spanWhile {c : Char} (hc : isIdStart c = true) {cs ds : List Char}
    {r : { r : List Char // r.length ≤ cs.length }} (h : spanWhile isIdContinue cs = (ds, r)) :
    Word (String.ofList (c :: ds)) :=
  ⟨c, ds, String.toList_ofList, hc, (spanWhile_eq h).2.1⟩

variable {rest : List Char} {pos : Nat} {t : Token} {w : Nat}
  {r : { r : List Char // r.length ≤ rest.length }}

theorem number_named {c : Char} (h : number c rest pos = .ok (t, w, r)) : t.named = false := by
  unfold number at h
  split at h
  split at h
  · split at h
    · split at h
      cases h
      rfl
    · dsimp only at h
      split at h
      · cases h
        rfl
      · cases h
  · dsimp only at h
    split at h
    · cases h
      rfl
    · cases h

theorem quoted_named {q : Char} (h : quoted q rest pos = .ok (t, w, r)) : t.named = false := by
  unfold quoted at h
  split at h
  · cases h
    rfl
  · cases h

theorem word_clean {c : Char} (hc : isIdStart c = true) (h : word c rest = .ok (t, w, r)) :
    t.Clean := by
  unfold word at h
  split at h
  next ds r' hr' heq =>
  cases h
  have hw := word_spanWhile hc heq
  cases hk : Token.keyword? (String.ofList (c :: ds)) with
  | none => exact ⟨hw, hk⟩
  | some tok => exact Token.clean_of_keyword hk

theorem token_clean {c : Char} (h : token c rest pos = .ok (t, w, r)) : t.Clean := by
  have hout : stepOut (token c rest pos) = .ok (t, w, r.val) := by rw [h]; rfl
  rcases token_cases c rest pos with ⟨t', ht, e⟩ | ⟨t', ht, -, e⟩ | ⟨d, r', t', ht, rfl, e⟩ |
      ⟨-, e⟩ | ⟨d, r', ds, r'', -, -, hd, hs, e⟩ | ⟨-, e⟩ | ⟨-, hi, e⟩ | ⟨-, -, e⟩
  -- punctuation and operators carry no name
  · rw [e] at h
    cases h
    exact Token.clean_of_named ((by decide : ∀ x ∈ puncts ++ arithPuncts, x.2.named = false) _ ht)
  · rw [e] at h
    cases h
    exact Token.clean_of_named ((by decide : ∀ x ∈ loneOps, x.2.named = false) _ ht)
  · rw [e] at hout
    simp only [Except.ok.injEq, Prod.mk.injEq] at hout
    rw [← hout.1]
    exact Token.clean_of_named ((by decide : ∀ x ∈ pairOps, x.2.2.named = false) _ ht)
  · rw [e] at h
    exact Token.clean_of_named (quoted_named h)
  · -- `#name`
    rw [e] at hout
    simp only [Except.ok.injEq, Prod.mk.injEq] at hout
    rw [← hout.1]
    exact word_spanWhile hd hs
  · rw [e] at h
    exact Token.clean_of_named (number_named h)
  · rw [e] at h
    exact word_clean hi h
  · rw [e] at h
    cases h

theorem scanFrom_clean {cs : List Char} {pos : Nat} {acc ts : List (Spanned Token)}
    (hacc : ∀ x ∈ acc, x.value.Clean) (h : scanFrom cs pos acc = .ok ts) :
    ∀ x ∈ ts, x.value.Clean := by
  fun_induction scanFrom cs pos acc with
  | case1 =>
    cases h
    exact fun x hx => hacc x (List.mem_reverse.mp hx)
  | case2 => cases h
  | case3 cs pos acc blank c more hc hspan start t w r hr htok hlt ih =>
    refine ih (fun x hx => ?_) h
    rcases List.mem_cons.mp hx with rfl | hx
    · exact token_clean htok
    · exact hacc x hx

theorem scan_clean {s : String} {ts : List (Spanned Token)} (h : scan s = .ok ts) :
    ∀ x ∈ ts, x.value.Clean :=
  scanFrom_clean (fun _ hx => by simp at hx) h

end Lexer

def wordCheck (n : String) : Bool :=
  match n.toList with
  | [] => false
  | c :: cs => Text.isIdStart c && cs.all Text.isIdContinue

theorem word_of_check {n : String} (h : wordCheck n = true) : Word n := by
  unfold wordCheck at h
  split at h
  · cases h
  · rename_i c cs hn
    simp only [Bool.and_eq_true, List.all_eq_true] at h
    exact ⟨c, cs, hn, h.1, h.2⟩

theorem memberName_word {tok : Token} {name : String} (h : Parser.memberName? tok = some name)
    (hc : tok.Clean) : Word name := by
  unfold Parser.memberName? at h
  split at h
  · cases h
    exact hc.1
  · obtain ⟨e, he, rfl⟩ := Option.map_eq_some_iff.mp h
    have hk : ∀ e ∈ Token.keywords, wordCheck e.1 = true := by decide
    exact word_of_check (hk e (List.mem_of_find?_eq_some he))

namespace Parser

def Clean (ts : Tokens) : Prop := ∀ x ∈ ts, x.value.Clean

theorem Clean.suffix {ts r : Tokens} (hc : Clean ts) (h : r <:+ ts) : Clean r :=
  fun x hx => hc x (h.subset hx)

theorem Clean.head {t : Spanned Token} {ts : Tokens} (hc : Clean (t :: ts)) : t.value.Clean :=
  hc t List.mem_cons_self

theorem Clean.tail {t : Spanned Token} {ts : Tokens} (hc : Clean (t :: ts)) : Clean ts :=
  hc.suffix (List.suffix_cons t ts)

section Suffixes

theorem operatorAt_suffix {ts : Tokens} {prec : Nat} {op : Option BinOp}
    {r : { r : Tokens // r.length < ts.length }} (h : operatorAt ts = some (prec, op, r)) :
    r.val <:+ ts := by
  unfold operatorAt at h
  split at h
  · cases h
  · split at h
    · split at h
      · cases h
        exact (List.suffix_cons _ _).trans (List.suffix_cons _ _)
      · obtain ⟨⟨_, _⟩, -, e⟩ := Option.map_eq_some_iff.mp h
        cases e
        exact List.suffix_cons _ _
    · obtain ⟨⟨_, _⟩, -, e⟩ := Option.map_eq_some_iff.mp h
      cases e
      exact List.suffix_cons _ _

theorem unaryAt_suffix {ts : Tokens} {op : UnOp} {r : { r : Tokens // r.length < ts.length }}
    (h : unaryAt ts = some (op, r)) : r.val <:+ ts := by
  unfold unaryAt at h
  split at h
  · cases h
  · split at h
    · cases h
      exact List.suffix_cons _ _
    · split at h
      · cases h
        exact List.suffix_cons _ _
      · cases h

theorem minMagnitudeAt_suffix {ts : Tokens} {r : { r : Tokens // r.length < ts.length }}
    (h : minMagnitudeAt ts = some r) : r.val <:+ ts := by
  unfold minMagnitudeAt at h
  split at h
  · cases h
  · split at h
    · split at h
      · split at h
        · cases h
        · cases h
          exact List.suffix_cons _ _
      · cases h
        exact List.suffix_cons _ _
    · cases h

theorem tokenAt_suffix {tok : Token} {ts : Tokens} {r : { r : Tokens // r.length < ts.length }}
    (h : tokenAt tok ts = some r) : r.val <:+ ts := by
  unfold tokenAt at h
  split at h
  · cases h
  · split at h
    · cases h
      exact List.suffix_cons _ _
    · cases h

theorem after?_some {tok : Token} {ts r : Tokens} (h : after? tok ts = some r) :
    ∃ y : { r : Tokens // r.length < ts.length }, tokenAt tok ts = some y ∧ y.val = r :=
  Option.map_eq_some_iff.mp h

theorem after?_suffix {tok : Token} {ts r : Tokens} (h : after? tok ts = some r) : r <:+ ts := by
  obtain ⟨y, hy, rfl⟩ := after?_some h
  exact tokenAt_suffix hy

theorem expect_suffix {len : Nat} {tok : Token} {ts : Tokens}
    {r : { r : Tokens // r.length < ts.length }} (h : expect len tok ts = .ok r) : r.val <:+ ts := by
  unfold expect at h
  split at h
  · cases h
  · split at h
    · cases h
      exact List.suffix_cons _ _
    · cases h

theorem questionAt_suffix (ts : Tokens) : (questionAt ts).2.val <:+ ts := by
  unfold questionAt
  split
  · exact List.suffix_refl _
  · split
    · exact List.suffix_cons _ _
    · exact List.suffix_refl _

theorem uncons_none {ts : Tokens} (h : uncons ts = none) : ts = [] := by
  cases ts with
  | nil => rfl
  | cons t rest => cases h

theorem uncons_some {ts : Tokens} {t : Spanned Token} {rest : Tokens} {hl : rest.length < ts.length}
    (h : uncons ts = some (t, ⟨rest, hl⟩)) : ts = t :: rest := by
  cases ts with
  | nil => cases h
  | cons u us => cases h; rfl

end Suffixes

def NameOk : Option Expr → String → Prop
  | none, n => Word n ∧ Token.keyword? n = none
  | some b, n => b.Readable ∧ Word n

theorem NameOk.prop : ∀ {base : Option Expr} {n : String}, NameOk base n →
    (Expr.prop base n).Readable
  | none, _, ⟨hw, hk⟩ => .root hw hk
  | some _, _, ⟨hb, hw⟩ => .prop hb hw

theorem NameOk.call : ∀ {base : Option Expr} {n : String} {args : List Expr}, NameOk base n →
    (∀ a ∈ args, a.Readable) → (Expr.call base n args).Readable
  | none, _, _, ⟨hw, hk⟩, ha => .rootCall hw hk ha
  | some _, _, _, ⟨hb, hw⟩, ha => .call hb hw ha

def Goal.Carries : Goal → Prop
  | .climb left _ | .suffixes left | .member left => left.Readable
  | .listItems acc => ∀ a ∈ acc, a.Readable
  | .mapEntries acc => (∀ e ∈ acc, e.1.Readable) ∧ ∀ e ∈ acc, e.2.Readable
  | .named base n => NameOk base n
  | .arguments base n acc => NameOk base n ∧ ∀ a ∈ acc, a.Readable
  | .expr _ | .unary | .operand | .primary => True

theorem atom_readable {t : Spanned Token} {e : Expr} (h : atom t = some (.ok e))
    (hc : t.value.Clean) : e.Readable := by
  unfold atom at h
  split at h
  · split at h
    · cases h
      exact .lit _
    · cases h
  · split at h
    · cases h
      exact .lit _
    · cases h
  · -- a string: its text unescaped
    cases hu : unescape (t.start + 1) _ with
    | error => rw [hu] at h; cases h
    | ok v => rw [hu] at h; cases h; exact .lit _
  · cases h
    exact .lit _
  · cases h
    exact .lit _
  · cases h
    exact .lit _
  · rename_i name hv
    cases h
    rw [hv] at hc
    exact .var hc
  · cases h

theorem applyUnary_cases (op : UnOp) (e : Expr) :
    applyUnary op e = .unary op e ∨ ∃ l, applyUnary op e = .lit l := by
  unfold applyUnary
  split
  · split
    · exact .inl rfl
    · exact .inr ⟨_, rfl⟩
  · exact .inr ⟨_, rfl⟩
  · exact .inl rfl

theorem readable_applyUnary (op : UnOp) {e : Expr} (he : e.Readable) :
    (applyUnary op e).Readable := by
  rcases applyUnary_cases op e with h | ⟨l, h⟩
  · rw [h]
    exact .unary he h
  · rw [h]
    exact .lit l

theorem identName?_some {tok : Token} {name : String} (h : identName? tok = some name) :
    tok = .ident name := by
  unfold identName? at h
  split at h
  · cases h
    rfl
  · cases h

variable (len : Nat)

def Sound (g : Goal) (ts : Tokens) (k : Nat) : Prop :=
  Clean ts → g.Carries → ∀ {e : Expr} {rest : Tokens}, out (run len g ts k) = .ok (e, rest) →
    e.Readable ∧ Clean rest

variable {len}

theorem out_eq_ok {ts : Tokens} {x : Result ts} {e : Expr} {rest : Tokens}
    (h : out x = .ok (e, rest)) : ∃ p : Parsed ts, x = .ok p ∧ p.tree = e ∧ p.rest = rest := by
  cases x with
  | error => cases h
  | ok p =>
    simp only [out, Except.map, Except.ok.injEq, Prod.mk.injEq] at h
    exact ⟨p, rfl, h⟩

theorem Sound.peel {g : Goal} {ts : Tokens} {k : Nat} (hs : Sound len g ts k) (hc : Clean ts)
    (hg : g.Carries) {F : Expr × Tokens → Except ParseError (Expr × Tokens)} {v : Expr × Tokens}
    (h : (out (run len g ts k)).bind F = .ok v) :
    ∃ p : Parsed ts, p.tree.Readable ∧ Clean p.rest ∧ F (p.tree, p.rest) = .ok v := by
  obtain ⟨⟨e1, r1⟩, h1, h2⟩ := bind_eq_ok.mp h
  obtain ⟨p, -, rfl, rfl⟩ := out_eq_ok h1
  obtain ⟨he, hr⟩ := hs hc hg h1
  exact ⟨p, he, hr, h2⟩

theorem expect_peel {tok : Token} {ts : Tokens} (hc : Clean ts)
    {G : Tokens → Except ParseError (Expr × Tokens)} {v : Expr × Tokens}
    (h : ((expect len tok ts).map (·.val)).bind G = .ok v) :
    ∃ r : { r : Tokens // r.length < ts.length }, Clean r.val ∧ G r.val = .ok v := by
  obtain ⟨r1, h1, h2⟩ := bind_eq_ok.mp h
  cases he : expect len tok ts with
  | error => rw [he] at h1; cases h1
  | ok r =>
    rw [he] at h1
    cases h1
    exact ⟨r, hc.suffix (expect_suffix he), h2⟩

theorem sound_of_error {g : Goal} {ts : Tokens} {k : Nat} {err : ParseError}
    (h : out (run len g ts k) = .error err) : Sound len g ts k := by
  intro _ _ e rest h'
  rw [h] at h'
  cases h'

theorem sound_of_ok {g : Goal} {ts : Tokens} {k : Nat} {a : Expr} {r : Tokens}
    (h : out (run len g ts k) = .ok (a, r)) (hs : Clean ts → g.Carries → a.Readable ∧ Clean r) :
    Sound len g ts k := by
  intro hts hg e rest h'
  rw [h] at h'
  cases h'
  exact hs hts hg

section Steps

theorem sound_expr {ts : Tokens} {k min : Nat} (hu : Sound len .unary ts k)
    (hc : ∀ p : Parsed ts, Sound len (.climb p.tree min) p.rest k) : Sound len (.expr min) ts k := by
  intro hts _ e rest h
  rw [out_expr] at h
  obtain ⟨p, hpa, hpr, h⟩ := hu.peel hts trivial h
  exact hc p hpr hpa h

theorem sound_climb_binary {ts : Tokens} {k : Nat} {left : Expr} {min prec : Nat} {o : BinOp}
    {r : { r : Tokens // r.length < ts.length }} (hop : operatorAt ts = some (prec, some o, r))
    (hp : ¬prec < min) (hk : ¬maxDepth ≤ k) (hr : Sound len (.expr (prec + 1)) r.val (k + 1))
    (hc : ∀ right : Parsed r.val,
      Sound len (.climb (.binary o left right.tree) min) right.rest (k + 1)) :
    Sound len (.climb left min) ts k := by
  intro hts hl e rest h
  rw [out_climb_binary len left min k hop (by omega) (by omega)] at h
  obtain ⟨p, hpa, hpr, h⟩ := hr.peel (hts.suffix (operatorAt_suffix hop)) trivial h
  exact hc p hpr (.binary hl hpa) h

theorem sound_climb_cond {ts : Tokens} {k : Nat} {left : Expr} {min prec : Nat}
    {r : { r : Tokens // r.length < ts.length }} (hop : operatorAt ts = some (prec, none, r))
    (hp : ¬prec < min) (hk : ¬maxDepth ≤ k) (hyes : Sound len (.expr 1) r.val (k + 1))
    (hno : ∀ (yes : Parsed r.val) (r2 : { r2 : Tokens // r2.length < yes.rest.length }),
      Sound len (.expr 1) r2.val (k + 1))
    (hc : ∀ (yes : Parsed r.val) (r2 : { r2 : Tokens // r2.length < yes.rest.length })
      (no : Parsed r2.val), Sound len (.climb (left.cond yes.tree no.tree) min) no.rest (k + 1)) :
    Sound len (.climb left min) ts k := by
  intro hts hl e rest h
  rw [out_climb_cond len left min k hop (by omega) (by omega)] at h
  obtain ⟨yes, hya, hyr, h⟩ := hyes.peel (hts.suffix (operatorAt_suffix hop)) trivial h
  obtain ⟨r2, hr2, h⟩ := expect_peel hyr h
  obtain ⟨no, hna, hnr, h⟩ := (hno yes r2).peel hr2 trivial h
  exact hc yes r2 no hnr (.cond hl hya hna) h

theorem sound_operand_primary {ts : Tokens} {k : Nat} (hu : unaryAt ts = none)
    (hp : Sound len .primary ts k) (hs : ∀ p : Parsed ts, Sound len (.suffixes p.tree) p.rest k) :
    Sound len .operand ts k := by
  intro hts _ e rest h
  rw [out_operand_primary k hu] at h
  obtain ⟨p, hpa, hpr, h⟩ := hp.peel hts trivial h
  exact hs p hpr hpa h

theorem sound_operand_op {ts : Tokens} {k : Nat} {op : UnOp}
    {r : { r : Tokens // r.length < ts.length }} (hu : unaryAt ts = some (op, r))
    (hm : ∀ r' : { r' : Tokens // r'.length < r.val.length }, op = .neg →
      minMagnitudeAt r.val = some r' → False)
    (hx : Sound len .unary r.val k) : Sound len .operand ts k := by
  intro hts _ e rest h
  have hmin : op = .neg → minMagnitudeAt r.val = none := fun hn =>
    Option.eq_none_iff_forall_ne_some.mpr fun r' => hm r' hn
  rw [out_operand_op k hu hmin] at h
  rcases hx' : out (run len .unary r.val k) with _ | ⟨ve, vr⟩
  · rw [hx'] at h
    cases h
  · rw [hx'] at h
    cases h
    obtain ⟨hva, hvr⟩ := hx (hts.suffix (unaryAt_suffix hu)) trivial hx'
    exact ⟨readable_applyUnary op hva, hvr⟩

theorem sound_primary_name {t : Spanned Token} {rest : Tokens} {k : Nat} {name : String}
    (ha : atom t = none) (hi : identName? t.value = some name)
    (hn : Sound len (.named none name) rest k) : Sound len .primary (t :: rest) k := by
  intro hts _ e r h
  rw [out_primary_name t rest k ha hi] at h
  have hc := hts.head
  rw [identName?_some hi] at hc
  exact hn hts.tail hc h

theorem sound_group {t : Spanned Token} {rest : Tokens} {k : Nat} (ha : atom t = none)
    (hl : t.value = .lparen) (hx : Sound len (.expr 1) rest k) : Sound len .primary (t :: rest) k := by
  intro hts _ e r h
  rw [out_primary_group t rest k ha hl] at h
  obtain ⟨p, hpa, hpr, h⟩ := hx.peel hts.tail trivial h
  obtain ⟨r2, hr2, h⟩ := expect_peel hpr h
  cases h
  exact ⟨hpa, hr2⟩

theorem sound_items (G : List Expr → Goal) (build : List Expr → Expr) {closer : Token}
    (err : Tokens → ParseError) (C : Prop)
    (hG : ∀ acc ts k, out (run len (G acc) ts k) =
      (out (run len (.expr 1) ts k)).bind fun p =>
        match after? .comma p.2 with
        | some r => out (run len (G (p.1 :: acc)) r k)
        | none =>
          match after? closer p.2 with
          | some r => .ok (build (p.1 :: acc).reverse, r)
          | none => .error (err p.2))
    (hcarry : ∀ acc, (G acc).Carries ↔ C ∧ ∀ a ∈ acc, a.Readable)
    (hbuild : ∀ items, C → (∀ a ∈ items, a.Readable) → (build items).Readable)
    {ts : Tokens} {k : Nat} {acc : List Expr} (hx : Sound len (.expr 1) ts k)
    (hnext : ∀ (p : Parsed ts) (r : { r : Tokens // r.length < p.rest.length }),
      Sound len (G (p.tree :: acc)) r.val k) :
    Sound len (G acc) ts k := by
  intro hts hg e rest h
  obtain ⟨hC, hacc⟩ := (hcarry acc).mp hg
  rw [hG] at h
  obtain ⟨p, hpa, hpr, h⟩ := hx.peel hts trivial h
  have hall : ∀ a ∈ p.tree :: acc, a.Readable := List.forall_mem_cons.mpr ⟨hpa, hacc⟩
  dsimp only at h
  split at h
  · -- a comma: the next item
    rename_i r hr
    obtain ⟨r', hr', rfl⟩ := after?_some hr
    exact hnext p r' (hpr.suffix (tokenAt_suffix hr')) ((hcarry _).mpr ⟨hC, hall⟩) h
  · split at h
    · rename_i r hr
      cases h
      exact ⟨hbuild _ hC fun a ha => hall a (List.mem_reverse.mp ha), hpr.suffix (after?_suffix hr)⟩
    · cases h

theorem sound_mapEntries {ts : Tokens} {k : Nat} {acc : List (Expr × Expr)}
    (hkey : Sound len (.expr 1) ts k)
    (hval : ∀ (key : Parsed ts) (r1 : { r : Tokens // r.length < key.rest.length }),
      Sound len (.expr 1) r1.val k)
    (hnext : ∀ (key : Parsed ts) (r1 : { r : Tokens // r.length < key.rest.length })
      (value : Parsed r1.val) (r : { r : Tokens // r.length < value.rest.length }),
      Sound len (.mapEntries ((key.tree, value.tree) :: acc)) r.val k) :
    Sound len (.mapEntries acc) ts k := by
  intro hts hacc e rest h
  rw [out_mapEntries] at h
  obtain ⟨key, hka, hkr, h⟩ := hkey.peel hts trivial h
  obtain ⟨r1, hr1, h⟩ := expect_peel hkr h
  obtain ⟨value, hva, hvr, h⟩ := (hval key r1).peel hr1 trivial h
  have hall : (∀ e ∈ (key.tree, value.tree) :: acc, e.1.Readable) ∧
      ∀ e ∈ (key.tree, value.tree) :: acc, e.2.Readable :=
    ⟨List.forall_mem_cons.mpr ⟨hka, hacc.1⟩, List.forall_mem_cons.mpr ⟨hva, hacc.2⟩⟩
  dsimp only at h
  split at h
  · -- a comma: the next entry
    rename_i r hr
    obtain ⟨r', hr', rfl⟩ := after?_some hr
    exact hnext key r1 value r' (hvr.suffix (tokenAt_suffix hr')) hall h
  · split at h
    · rename_i r hr
      cases h
      exact ⟨.map (fun e he => hall.1 e (List.mem_reverse.mp he))
        (fun e he => hall.2 e (List.mem_reverse.mp he)), hvr.suffix (after?_suffix hr)⟩
    · cases h

theorem sound_suffixes_member {t : Spanned Token} {rest : Tokens} {k : Nat} {left : Expr}
    (hd : t.value = .dot) (hk : ¬maxDepth ≤ k) (hm : Sound len (.member left) rest (k + 1))
    (hs : ∀ p : Parsed rest, Sound len (.suffixes p.tree) p.rest (k + 1)) :
    Sound len (.suffixes left) (t :: rest) k := by
  intro hts hl e r h
  rw [out_suffixes_member t rest k left hd, if_neg hk] at h
  obtain ⟨p, hpa, hpr, h⟩ := hm.peel hts.tail hl h
  exact hs p hpr hpa h

theorem sound_suffixes_index {t : Spanned Token} {rest : Tokens} {k : Nat} {left : Expr}
    (hb : t.value = .lbracket) (hk : ¬maxDepth ≤ k) (hi : Sound len (.expr 1) rest (k + 1))
    (hs : ∀ (i : Parsed rest) (r : { r : Tokens // r.length < i.rest.length }),
      Sound len (.suffixes (left.index i.tree)) r.val (k + 1)) :
    Sound len (.suffixes left) (t :: rest) k := by
  intro hts hl e r h
  rw [out_suffixes_index t rest k left hb, if_neg hk] at h
  obtain ⟨i, hia, hir, h⟩ := hi.peel hts.tail trivial h
  obtain ⟨r2, hr2, h⟩ := expect_peel hir h
  exact hs i r2 hr2 (.index hl hia) h

theorem sound_member_brace {t : Spanned Token} {rest : Tokens} {k : Nat} {base : Expr}
    (hb : t.value = .lbrace) {selecting : Bool} {r : { r : Tokens // r.length ≤ rest.length }}
    (hq : questionAt rest = (selecting, r)) (hx : Sound len (.expr 1) r.val k) :
    Sound len (.member base) (t :: rest) k := by
  intro hts hbase e r' h
  rw [out_member_brace t rest k base hb, hq] at h
  have hr : Clean r.val := hts.tail.suffix (by simpa [hq] using questionAt_suffix rest)
  obtain ⟨p, hpa, hpr, h⟩ := hx.peel hr trivial h
  obtain ⟨r2, hr2, h⟩ := expect_peel hpr h
  cases h
  refine ⟨?_, hr2⟩
  cases selecting
  · exact .project hbase hpa
  · exact .select hbase hpa

theorem sound_member_name {t : Spanned Token} {rest : Tokens} {k : Nat} {base : Expr}
    {name : String} (hb : t.value ≠ .lbrace) (hm : memberName? t.value = some name)
    (hn : Sound len (.named (some base) name) rest k) : Sound len (.member base) (t :: rest) k := by
  intro hts hbase e r h
  rw [out_member_name t rest k base hb hm] at h
  exact hn hts.tail ⟨hbase, memberName_word hm hts.head⟩ h

theorem sound_named_arguments {ts : Tokens} {k : Nat} {base : Option Expr} {name : String}
    {r : { r : Tokens // r.length < ts.length }} (hlp : tokenAt .lparen ts = some r)
    (hrp : tokenAt .rparen r.val = none) (hx : Sound len (.arguments base name []) r.val k) :
    Sound len (.named base name) ts k := by
  intro hts hn e rest h
  rw [out_named_call ts k base name (r := r.val) (by simp [after?, hlp])] at h
  rw [show after? .rparen r.val = none by simp [after?, hrp]] at h
  exact hx (hts.suffix (tokenAt_suffix hlp)) ⟨hn, by simp⟩ h

end Steps

theorem sound (g : Goal) (ts : Tokens) (k : Nat) : Sound len g ts k := by
  induction g, ts, k using run.induct with
  -- expressions and the climb over binary operators
  | case1 _ k min hu hc => exact sound_expr hu hc
  | case2 _ k left min hop =>
    exact sound_of_ok (out_climb_none len left min k hop) fun hts hl => ⟨hl, hts⟩
  | case3 _ k left min _ _ _ hop _ hp =>
    exact sound_of_ok (out_climb_low len left min k hop hp) fun hts hl => ⟨hl, hts⟩
  | case4 _ k left min _ _ _ hop _ hp hk =>
    exact sound_of_error (out_climb_deep len left min k hop (by omega) hk)
  | case5 _ _ _ _ _ _ _ hp hk hop hyes hno hc => exact sound_climb_cond hop hp hk hyes hno hc
  | case6 _ _ _ _ _ _ _ hp hk _ hop hr hc => exact sound_climb_binary hop hp hk hr hc
  -- prefix operators and operands
  | case7 ts k hk => exact sound_of_error (by rw [out_unary, if_pos hk])
  | case8 ts k hk ho =>
    intro hts _ e rest h
    rw [out_unary, if_neg hk] at h
    exact ho hts trivial h
  | case9 _ _ hu hp hs => exact sound_operand_primary hu hp hs
  | case10 _ k _ _ _ hm hu =>
    refine sound_of_ok (out_operand_min k hu hm) fun hts _ => ⟨.lit _, hts.suffix ?_⟩
    exact (minMagnitudeAt_suffix hm).trans (unaryAt_suffix hu)
  | case11 _ _ _ _ hu _ hm hx => exact sound_operand_op hu hm hx
  -- primaries
  | case12 ts k hu =>
    rw [uncons_none hu]
    exact sound_of_error (out_primary_end k)
  | case13 _ k t rest _ hu _ ha =>
    rw [uncons_some hu]
    exact sound_of_ok (out_primary_atom t rest k ha) fun hts _ =>
      ⟨atom_readable ha hts.head, hts.tail⟩
  | case14 _ k t rest _ hu _ ha =>
    rw [uncons_some hu]
    exact sound_of_error (out_primary_atomError t rest k ha)
  | case15 _ _ _ _ _ hu ha _ hi hn =>
    rw [uncons_some hu]
    exact sound_primary_name ha hi hn
  | case16 _ _ _ _ _ hu ha _ hl hx =>
    rw [uncons_some hu]
    exact sound_group ha hl hx
  | case17 _ k t rest _ hu ha _ _ hl r hr =>
    rw [uncons_some hu]
    refine sound_of_ok (a := .list []) (r := r.val) ?_ fun hts _ =>
      ⟨.list (List.forall_mem_nil _), hts.tail.suffix (tokenAt_suffix hr)⟩
    rw [out_primary_list t rest k ha hl, show after? .rbrace rest = some r.val by simp [after?, hr]]
  | case18 _ k t rest _ hu ha _ _ hl hr hx =>
    rw [uncons_some hu]
    intro hts _ e r h
    rw [out_primary_list t rest k ha hl, show after? .rbrace rest = none by simp [after?, hr]] at h
    exact hx hts.tail (List.forall_mem_nil _) h
  | case19 _ k t rest _ hu ha _ _ _ hm r hr =>
    rw [uncons_some hu]
    refine sound_of_ok (a := .map []) (r := r.val) ?_ fun hts _ =>
      ⟨.map (List.forall_mem_nil _) (List.forall_mem_nil _), hts.tail.suffix (tokenAt_suffix hr)⟩
    rw [out_primary_map t rest k ha hm, show after? .rbrace rest = some r.val by simp [after?, hr]]
  | case20 _ k t rest _ hu ha _ _ _ hm hr hx =>
    rw [uncons_some hu]
    intro hts _ e r h
    rw [out_primary_map t rest k ha hm, show after? .rbrace rest = none by simp [after?, hr]] at h
    exact hx hts.tail ⟨List.forall_mem_nil _, List.forall_mem_nil _⟩ h
  | case21 _ k t rest _ hu ha hi h1 h2 h3 =>
    rw [uncons_some hu]
    exact sound_of_error (out_primary_other t rest k ha hi h1 h2 h3)
  -- sequences
  | case22 _ _ _ hx hnext =>
    exact sound_items .listItems .list _ True (fun acc ts k => out_listItems ts k acc)
      (fun _ => ⟨fun h => ⟨trivial, h⟩, And.right⟩) (fun _ _ h => .list h) hx hnext
  | case23 _ _ _ hkey hval hnext => exact sound_mapEntries hkey hval hnext
  | case24 ts k base name hlp =>
    exact sound_of_ok (out_named_prop ts k base name (by simp [after?, hlp])) fun hts hn =>
      ⟨hn.prop, hts⟩
  | case25 ts k base name r hlp _ r' hrp =>
    refine sound_of_ok (a := .call base name []) (r := r'.val) ?_ fun hts hn =>
      ⟨hn.call (List.forall_mem_nil _), (hts.suffix (tokenAt_suffix hlp)).suffix (tokenAt_suffix hrp)⟩
    rw [out_named_call ts k base name (r := r.val) (by simp [after?, hlp]),
      show after? .rparen r.val = some r'.val by simp [after?, hrp]]
  | case26 _ _ _ _ _ hlp _ hrp hx => exact sound_named_arguments hlp hrp hx
  | case27 _ _ base name _ hx hnext =>
    exact sound_items (.arguments base name) (.call base name) _ (NameOk base name)
      (fun acc ts k => out_arguments ts k base name acc) (fun _ => Iff.rfl)
      (fun _ hn h => hn.call h) hx hnext
  -- postfix chains
  | case28 ts k left hu =>
    rw [uncons_none hu]
    exact sound_of_ok (out_suffixes_end k left) fun hts hl => ⟨hl, hts⟩
  | case29 _ k left t rest _ hu hd hk =>
    rw [uncons_some hu]
    exact sound_of_error (by rw [out_suffixes_member t rest k left hd, if_pos hk])
  | case30 _ _ _ _ _ _ hu hd hk hm hs =>
    rw [uncons_some hu]
    exact sound_suffixes_member hd hk hm hs
  | case31 _ k left t rest _ hu _ hb hk =>
    rw [uncons_some hu]
    exact sound_of_error (by rw [out_suffixes_index t rest k left hb, if_pos hk])
  | case32 _ _ _ _ _ _ hu _ hb hk hi hs =>
    rw [uncons_some hu]
    exact sound_suffixes_index hb hk hi hs
  | case33 _ k left t rest _ hu h1 h2 =>
    rw [uncons_some hu]
    exact sound_of_ok (out_suffixes_stop t rest k left h1 h2) fun hts hl => ⟨hl, hts⟩
  -- members after a dot
  | case34 ts k base hu =>
    rw [uncons_none hu]
    exact sound_of_error (out_member_end k base)
  | case35 _ _ _ _ _ _ hu hb _ _ hq _ hx =>
    rw [uncons_some hu]
    exact sound_member_brace hb hq hx
  | case36 _ _ _ _ _ _ hu hb _ hm hn =>
    rw [uncons_some hu]
    exact sound_member_name hb hm hn
  | case37 _ k base t rest _ hu hb hm =>
    rw [uncons_some hu]
    exact sound_of_error (out_member_bad t rest k base hb hm)

theorem parse_readable {s : String} {t : Expr} (h : parse s = .ok t) : t.Readable := by
  cases hs : Lexer.scan s with
  | error e => simp [parse, hs] at h
  | ok ts =>
    rw [parse_eq hs, bind_eq_ok] at h
    obtain ⟨⟨e, rest⟩, h1, h2⟩ := h
    have he := (sound (.expr 1) ts 0 (Lexer.scan_clean hs) trivial h1).1
    dsimp only at h2
    split at h2
    · cases h2
      exact he
    · cases h2

/-- Printing a parsed tree whose decimals show their point and parsing the text gives the tree back,
unless the nesting limit is reached; a tree of height at most 32 never reaches it. -/
theorem parse_print_of_parse {s : String} {t : Expr} (hs : parse s = .ok t)
    (hp : ∀ l ∈ t.lits, l.Pointed) :
    (parse t.print = .ok t ∨ ∃ p, parse t.print = .error (.tooDeep maxDepth p)) ∧
      (t.height ≤ 32 → parse t.print = .ok t) :=
  parse_print_of_readable (parse_readable hs) hp

theorem parse_print_of_parse_product :
    parse "(#price * 1.5)" =
        .ok (.binary .mul (.var "price") (.lit (.dec ⟨false, 15, 1, by decide, by decide⟩))) ∧
      (∀ l ∈ (Expr.binary .mul (.var "price")
        (.lit (.dec ⟨false, 15, 1, by decide, by decide⟩))).lits, l.Pointed) ∧
      ((parse "(#price * 1.5)" =
          .ok (.binary .mul (.var "price") (.lit (.dec ⟨false, 15, 1, by decide, by decide⟩))) ∨
        ∃ p, parse "(#price * 1.5)" = .error (.tooDeep maxDepth p)) ∧
      ((Expr.binary .mul (.var "price")
          (.lit (.dec ⟨false, 15, 1, by decide, by decide⟩))).height ≤ 32 →
        parse "(#price * 1.5)" =
          .ok (.binary .mul (.var "price") (.lit (.dec ⟨false, 15, 1, by decide, by decide⟩))))) := by
  have hr : (Expr.binary .mul (.var "price")
      (.lit (.dec ⟨false, 15, 1, by decide, by decide⟩))).Readable :=
    .binary (.var (word_of_check (by decide))) (.lit _)
  have hp : ∀ l ∈ (Expr.binary .mul (.var "price")
      (.lit (.dec ⟨false, 15, 1, by decide, by decide⟩))).lits, l.Pointed := by
    simp [Expr.lits, Literal.Pointed]
  have hprint : (Expr.binary .mul (.var "price")
      (.lit (.dec ⟨false, 15, 1, by decide, by decide⟩))).print = "(#price * 1.5)" := by decide
  have hs := (parse_print_of_readable hr hp).2 (by decide)
  rw [hprint] at hs
  have h := parse_print_of_parse hs hp
  rw [hprint] at h
  exact ⟨hs, hp, h⟩

theorem scanFrom_nil (pos : Nat) (acc : List (Spanned Token)) :
    Lexer.scanFrom [] pos acc = .ok acc.reverse := by
  rw [Lexer.scanFrom]
  rfl

theorem scanFrom_tokenError {c : Char} {more : List Char} {pos : Nat} {e : ParseError}
    (hc : Text.isBlank c = false) (h : Lexer.token c more pos = .error e) (acc : List (Spanned Token)) :
    Lexer.scanFrom (c :: more) pos acc = .error e := by
  rw [Lexer.scanFrom]
  simp [Lexer.spanWhile, hc, Lexer.width, h]

theorem parse_atom {s : String} {x : Spanned Token} {e : Expr} (hs : Lexer.scan s = .ok [x])
    (ha : atom x = some (.ok e)) : parse s = .ok e := by
  have hx : out (run s.utf8ByteSize (.expr 1) [x] 0) = .ok (e, []) := by
    rw [out_expr, out_unary, if_neg (by decide), out_operand_primary _ (unaryAt_of_atom ha []),
      out_primary_atom x [] _ ha]
    simp only [Except.bind, out_suffixes_end, out_climb_none _ _ _ _ (rfl : operatorAt [] = none)]
  rw [parse_eq hs, hx]
  rfl

theorem print_parse_scale_zero :
    parse "79228162514264337593543950335.0" =
        .ok (.lit (.dec ⟨false, 2 ^ 96 - 1, 0, by decide, by decide⟩)) ∧
      parse (Expr.lit (.dec ⟨false, 2 ^ 96 - 1, 0, by decide, by decide⟩)).print =
        .error (.invalidLiteral "integer" "79228162514264337593543950335" 0) := by
  constructor
  · have hread : Lexer.Reads ("79228162514264337593543950335".toList ++ '.' :: ['0'])
        [.decimal (String.ofList ("79228162514264337593543950335".toList ++ '.' :: ['0']))] [] :=
      Lexer.reads_decimal (by decide) (by decide) (List.all_eq_true.mp (by decide))
        Lexer.follows_nil
    obtain ⟨pos, new, hv, e⟩ := hread 0 []
    obtain ⟨x, rfl, hx⟩ := tokens_one hv
    have hs : Lexer.scan "79228162514264337593543950335.0" = .ok [x] := by
      rw [Lexer.scan, show "79228162514264337593543950335.0".toList =
        "79228162514264337593543950335".toList ++ '.' :: ['0'] ++ [] by decide, e, scanFrom_nil]
      rfl
    refine parse_atom hs ?_
    have hr : Decimal.read? (String.ofList ("79228162514264337593543950335".toList ++ '.' :: ['0'])) =
        some ⟨false, 2 ^ 96 - 1, 0, by decide, by decide⟩ := by rfl
    simp only [atom, hx, hr]
  · have hprint : (Expr.lit (.dec ⟨false, 2 ^ 96 - 1, 0, by decide, by decide⟩)).print =
        "79228162514264337593543950335" := by decide
    have hs : Lexer.scan "79228162514264337593543950335" =
        .error (.invalidLiteral "integer" "79228162514264337593543950335" 0) := by
      rw [Lexer.scan, show "79228162514264337593543950335".toList =
        '7' :: "9228162514264337593543950335".toList by decide]
      exact scanFrom_tokenError (by decide) (by rfl) []
    rw [hprint, parse, hs]

end Parser

end TypedExpr
