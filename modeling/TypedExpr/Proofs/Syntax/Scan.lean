import TypedExpr.Proofs.Syntax.Print
import TypedExpr.Proofs.Text.Ident
import TypedExpr.Proofs.Decimal.Render

/-! Scanning printed text gives back the tokens it was printed from. `Reads cs ts rest` says that
the scanner, in front of `rest`, turns `cs` into tokens with the values `ts` and goes on with
`rest`; such facts chain along the text. -/

namespace TypedExpr.Lexer
open Text

theorem spanWhile_append {p : Char → Bool} (xs ys : List Char) (hx : ∀ x ∈ xs, p x = true)
    (hy : ∀ y ∈ ys.head?, p y = false) : ∃ h, spanWhile p (xs ++ ys) = (xs, ⟨ys, h⟩) := by
  induction xs with
  | nil =>
    cases ys with
    | nil => exact ⟨Nat.le_refl _, rfl⟩
    | cons y ys => exact ⟨Nat.le_refl _, by simp [spanWhile, hy y rfl]⟩
  | cons x xs ih =>
    obtain ⟨h, e⟩ := ih (fun y hy' => hx y (List.mem_cons_of_mem _ hy'))
    refine ⟨by simp; omega, ?_⟩
    simp [spanWhile, hx x (by simp), e]

theorem spanWhile_spec {p : Char → Bool} (cs : List Char) :
    cs = (spanWhile p cs).1 ++ (spanWhile p cs).2.val ∧ (∀ x ∈ (spanWhile p cs).1, p x = true) ∧
      ∀ y ∈ (spanWhile p cs).2.val.head?, p y = false := by
  induction cs with
  | nil => simp [spanWhile]
  | cons c cs ih =>
    by_cases hc : p c = true
    · simp only [spanWhile, hc, if_true]
      revert ih
      rcases spanWhile p cs with ⟨xs, r, h⟩
      rintro ⟨e, hall, hhead⟩
      exact ⟨by rw [List.cons_append, ← e], List.forall_mem_cons.mpr ⟨hc, hall⟩, hhead⟩
    · simp [spanWhile, hc]

theorem spanWhile_eq {p : Char → Bool} {cs xs r : List Char} {h : r.length ≤ cs.length}
    (hs : spanWhile p cs = (xs, ⟨r, h⟩)) :
    cs = xs ++ r ∧ (∀ x ∈ xs, p x = true) ∧ ∀ y ∈ r.head?, p y = false := by
  have hspec := spanWhile_spec (p := p) cs
  rw [hs] at hspec
  exact hspec

theorem scanFrom_blank {c : Char} (hc : isBlank c = true) (cs : List Char) (pos : Nat)
    (acc : List (Spanned Token)) : scanFrom (c :: cs) pos acc = scanFrom cs (pos + c.utf8Size) acc := by
  conv => lhs; rw [scanFrom]
  conv => rhs; rw [scanFrom]
  simp only [spanWhile, hc, if_true]
  rcases spanWhile isBlank cs with ⟨blank, ⟨r, hr⟩⟩
  cases r with
  | nil => rfl
  | cons d more => simp only [width, List.foldr_cons, Nat.add_assoc]

theorem scanFrom_token {c : Char} {more : List Char} {pos : Nat} {t : Token} {w : Nat}
    {r : List Char} {hr : r.length ≤ more.length} (hc : isBlank c = false)
    (h : token c more pos = .ok (t, w, ⟨r, hr⟩)) (acc : List (Spanned Token)) :
    scanFrom (c :: more) pos acc = scanFrom r (pos + w) (⟨t, pos, pos + w⟩ :: acc) := by
  rw [scanFrom]
  simp [spanWhile, hc, width, h]

def Reads (cs : List Char) (ts : List Token) (rest : List Char) : Prop :=
  ∀ pos acc, ∃ (pos' : Nat) (new : List (Spanned Token)), new.map (·.value) = ts ∧
    scanFrom (cs ++ rest) pos acc = scanFrom rest pos' (new.reverse ++ acc)

theorem Reads.nil (rest : List Char) : Reads [] [] rest := by
  unfold Reads
  exact fun pos acc => ⟨pos, [], rfl, rfl⟩

theorem Reads.append {a b rest : List Char} {ts us : List Token} (h1 : Reads a ts (b ++ rest))
    (h2 : Reads b us rest) : Reads (a ++ b) (ts ++ us) rest := by
  unfold Reads at *
  intro pos acc
  obtain ⟨pos1, new1, hv1, e1⟩ := h1 pos acc
  obtain ⟨pos2, new2, hv2, e2⟩ := h2 pos1 (new1.reverse ++ acc)
  refine ⟨pos2, new1 ++ new2, by simp [hv1, hv2], ?_⟩
  rw [List.append_assoc, e1, e2]
  simp

theorem Reads.blank {c : Char} {cs rest : List Char} {ts : List Token} (hc : isBlank c = true)
    (h : Reads cs ts rest) : Reads (c :: cs) ts rest := by
  unfold Reads at *
  intro pos acc
  rw [List.cons_append, scanFrom_blank hc]
  exact h _ acc

def stepOut {rest : List Char} (s : Step rest) : Except ParseError (Token × Nat × List Char) :=
  s.map fun x => (x.1, x.2.1, x.2.2.val)

theorem reads_token {c : Char} {cs rest : List Char} {t : Token} (w : Nat) (hc : isBlank c = false)
    (h : ∀ pos, stepOut (token c (cs ++ rest) pos) = .ok (t, w, rest)) :
    Reads (c :: cs) [t] rest := by
  unfold Reads
  intro pos acc
  have e := h pos
  unfold stepOut at e
  rcases hs : token c (cs ++ rest) pos with _ | ⟨t', w', r', hr⟩
  · rw [hs] at e; cases e
  · rw [hs] at e
    simp only [Except.map, Except.ok.injEq, Prod.mk.injEq] at e
    obtain ⟨rfl, rfl, rfl⟩ := e
    exact ⟨pos + w', [⟨t', pos, pos + w'⟩], rfl, by rw [List.cons_append, scanFrom_token hc hs]; rfl⟩

theorem reads_single {c : Char} {t : Token} {rest : List Char} (hc : isBlank c = false)
    (h : ∀ pos, token c rest pos = single t rest) : Reads [c] [t] rest :=
  reads_token 1 hc fun pos => by rw [List.nil_append, h]; rfl

theorem reads_pair {c d : Char} {t : Token} {rest : List Char} (hc : isBlank c = false)
    (h : ∀ pos, stepOut (token c (d :: rest) pos) = .ok (t, 2, rest)) : Reads [c, d] [t] rest :=
  reads_token 2 hc fun pos => h pos

def puncts : List (Char × Token) :=
  [('(', .lparen), (')', .rparen), ('[', .lbracket), (']', .rbracket), ('{', .lbrace),
   ('}', .rbrace), (',', .comma), ('?', .question), (':', .colon), ('.', .dot), ('-', .minus)]

theorem reads_punct {c : Char} {t : Token} (h : (c, t) ∈ puncts) (rest : List Char) :
    Reads [c] [t] rest := by
  simp only [puncts, List.mem_cons, Prod.mk.injEq, List.not_mem_nil, or_false] at h
  rcases h with ⟨rfl, rfl⟩ | ⟨rfl, rfl⟩ | ⟨rfl, rfl⟩ | ⟨rfl, rfl⟩ | ⟨rfl, rfl⟩ | ⟨rfl, rfl⟩ |
      ⟨rfl, rfl⟩ | ⟨rfl, rfl⟩ | ⟨rfl, rfl⟩ | ⟨rfl, rfl⟩ | ⟨rfl, rfl⟩ <;>
    exact reads_single (by decide) fun _ => rfl

def Follows : List Char → Prop
  | [] => True
  | c :: cs => isIdContinue c = false ∧ (c = '.' → ∀ d ∈ cs.head?, d.isDigit = false)

theorem follows_nil : Follows [] := trivial

theorem follows_punct {c : Char} (hc : c ∈ [' ', '(', ')', '[', ']', '{', '}', ',', ':'])
    (cs : List Char) : Follows (c :: cs) := by
  simp only [List.mem_cons, List.not_mem_nil, or_false] at hc
  rcases hc with rfl | rfl | rfl | rfl | rfl | rfl | rfl | rfl | rfl <;> exact ⟨by decide, by simp⟩

theorem follows_dot {cs : List Char} (h : ∀ d ∈ cs.head?, d.isDigit = false) : Follows ('.' :: cs) :=
  ⟨by decide, fun _ => h⟩

theorem Follows.not_isIdContinue {c : Char} {cs : List Char} (h : Follows cs) (hc : c ∈ cs.head?) :
    isIdContinue c = false := by
  cases cs with
  | nil => simp at hc
  | cons d ds => simp only [List.head?_cons, Option.mem_def, Option.some.injEq] at hc; exact hc ▸ h.1

theorem Follows.not_isDigit {c : Char} {cs : List Char} (h : Follows cs) (hc : c ∈ cs.head?) :
    c.isDigit = false := by
  cases hd : c.isDigit
  · rfl
  · have := isIdContinue_of_isDigit hd
    rw [h.not_isIdContinue hc] at this
    cases this

/-! ### What one step of the scanner reads -/

def arithPuncts : List (Char × Token) :=
  [('+', .plus), ('*', .star), ('/', .slash), ('%', .percent)]

def loneOps : List (Char × Token) := [('!', .not), ('<', .less), ('>', .greater)]

def pairOps : List (Char × Char × Token) :=
  [('=', '=', .equal), ('!', '=', .notEqual), ('<', '=', .lessEq), ('>', '=', .greaterEq),
   ('&', '&', .and), ('|', '|', .or), ('#', '{', .hashBrace)]

theorem token_cases (c : Char) (rest : List Char) (pos : Nat) :
    (∃ t, (c, t) ∈ puncts ++ arithPuncts ∧ ∀ rest pos, token c rest pos = single t rest) ∨
    (∃ t, (c, t) ∈ loneOps ∧ (∀ d ∈ rest.head?, d ≠ '=') ∧ token c rest pos = single t rest) ∨
    (∃ d r t, (c, d, t) ∈ pairOps ∧ rest = d :: r ∧
      ∀ rest pos, stepOut (token c (d :: rest) pos) = .ok (t, 2, rest)) ∨
    ((c = '\'' ∨ c = '"') ∧ token c rest pos = quoted c rest pos) ∨
    (∃ d r ds r', c = '#' ∧ rest = d :: r ∧ isIdStart d = true ∧
      spanWhile isIdContinue r = (ds, r') ∧
      stepOut (token c rest pos) =
        .ok (.var (String.ofList (d :: ds)), 1 + width (d :: ds), r'.val)) ∨
    (c.isDigit = true ∧ token c rest pos = number c rest pos) ∨
    (c.isDigit = false ∧ isIdStart c = true ∧ token c rest pos = word c rest) ∨
    (c.isDigit = false ∧ isIdStart c = false ∧
      token c rest pos = .error (.unexpectedChar c pos)) := by
  generalize hs : token c rest pos = s
  unfold token at hs
  split at hs
  -- a token by itself, whatever follows
  case h_1 | h_2 | h_3 | h_4 | h_5 | h_6 | h_7 | h_8 | h_9 | h_10 | h_11 | h_12 | h_13 | h_14
    | h_15 => exact .inl ⟨_, by decide, fun _ _ => rfl⟩
  -- `!`, `<` and `>` before anything but `=`
  case h_19 | h_21 | h_23 =>
    rename_i hr
    refine .inr (.inl ⟨_, by decide, fun d hd hd' => ?_, hs.symm⟩)
    cases rest with
    | nil => cases hd
    | cons e r =>
      cases hd
      exact hr r (by rw [hd'])
  case h_16 | h_18 | h_20 | h_22 | h_24 | h_25 | h_28 =>
    refine .inr (.inr (.inl ⟨_, _, _, ?_, rfl, fun _ _ => rfl⟩))
    decide
  case h_26 | h_27 => exact .inr (.inr (.inr (.inl ⟨by decide, hs.symm⟩)))
  -- `#` and a name, or `#` alone
  case h_29 d r _ =>
    split at hs
    · split at hs
      rename_i hd _ ds r' h' heq
      refine .inr (.inr (.inr (.inr (.inl ⟨d, r, ds, ⟨r', h'⟩, rfl, rfl, hd, heq, ?_⟩))))
      rw [← hs]
      rfl
    · exact .inr (.inr (.inr (.inr (.inr (.inr (.inr ⟨rfl, rfl, hs.symm⟩))))))
  case h_17 | h_30 => exact .inr (.inr (.inr (.inr (.inr (.inr (.inr ⟨rfl, rfl, hs.symm⟩))))))
  -- any other character starts a number or a word, or nothing
  case h_31 =>
    split at hs
    · exact .inr (.inr (.inr (.inr (.inr (.inl ⟨‹_›, hs.symm⟩)))))
    · split at hs
      · rename_i hd hi
        exact .inr (.inr (.inr (.inr (.inr (.inr (.inl ⟨Bool.eq_false_iff.mpr hd, hi, hs.symm⟩))))))
      · rename_i hd hi
        exact .inr (.inr (.inr (.inr (.inr (.inr (.inr
          ⟨Bool.eq_false_iff.mpr hd, Bool.eq_false_iff.mpr hi, hs.symm⟩))))))

theorem token_of_plain {c : Char} (hc : c.isDigit = true ∨ isIdStart c = true) (r : List Char)
    (pos : Nat) :
    token c r pos =
      if c.isDigit then number c r pos
      else if isIdStart c then word c r else .error (.unexpectedChar c pos) := by
  unfold token
  split
  case h_31 => rfl
  -- every named row is a character that is neither a digit nor starts a name
  all_goals simp [isIdStart, isXidStart] at hc

theorem token_of_isIdStart {c : Char} (h : isIdStart c = true) (r : List Char) (pos : Nat) :
    token c r pos = word c r := by
  rw [token_of_plain (.inr h), if_neg (by simp [isDigit_of_isIdStart h]), if_pos h]

theorem token_of_isDigit {c : Char} (h : c.isDigit = true) (r : List Char) (pos : Nat) :
    token c r pos = number c r pos := by
  rw [token_of_plain (.inl h), if_pos h]

theorem token_lone {c : Char} {t : Token} (hc : (c, t) ∈ loneOps) {rest : List Char}
    (hr : ∀ d ∈ rest.head?, d ≠ '=') (pos : Nat) : token c rest pos = single t rest := by
  simp only [loneOps, List.mem_cons, Prod.mk.injEq, List.not_mem_nil, or_false] at hc
  cases rest with
  | nil => rcases hc with ⟨rfl, rfl⟩ | ⟨rfl, rfl⟩ | ⟨rfl, rfl⟩ <;> rfl
  | cons d ds =>
    have hd := hr d rfl
    rcases hc with ⟨rfl, rfl⟩ | ⟨rfl, rfl⟩ | ⟨rfl, rfl⟩ <;> simp [token, hd]

theorem isBlank_of_isDigit {c : Char} (h : c.isDigit = true) : isBlank c = false := by
  have := Char.isDigit_iff_toNat.mp h
  simp at this
  simp [isBlank]
  omega

theorem word_toList {n : String} {c : Char} {cs : List Char} (hn : n.toList = c :: cs) :
    String.ofList (c :: cs) = n := by
  rw [← hn, String.ofList_toList]

theorem reads_word {n : String} (hw : Word n) {rest : List Char}
    (hr : ∀ c ∈ rest.head?, isIdContinue c = false) : Reads n.toList [memberToken n] rest := by
  obtain ⟨c, cs, hn, hc, hcs⟩ := hw
  rw [hn]
  refine reads_token (width (c :: cs)) (isBlank_of_isIdStart hc) fun pos => ?_
  obtain ⟨h, e⟩ := spanWhile_append cs rest hcs hr
  rw [token_of_isIdStart hc, word, e]
  simp [stepOut, Except.map, memberToken, word_toList hn]

theorem token_var {d : Char} {ds rest : List Char} (hd : isIdStart d = true)
    (hds : ∀ x ∈ ds, isIdContinue x = true) (hr : ∀ c ∈ rest.head?, isIdContinue c = false)
    (pos : Nat) :
    stepOut (token '#' (d :: (ds ++ rest)) pos) =
      .ok (.var (String.ofList (d :: ds)), 1 + width (d :: ds), rest) := by
  obtain ⟨h, e⟩ := spanWhile_append ds rest hds hr
  -- the match of `token` needs the first character of the name to be no brace
  have hbrace : d ≠ '{' := by rintro rfl; simp [isIdStart, isXidStart] at hd
  simp [stepOut, Except.map, token, hd, e]

theorem reads_var {n : String} (hw : Word n) {rest : List Char}
    (hr : ∀ c ∈ rest.head?, isIdContinue c = false) : Reads ('#' :: n.toList) [.var n] rest := by
  obtain ⟨c, cs, hn, hc, hcs⟩ := hw
  rw [hn]
  refine reads_token (1 + width (c :: cs)) (by decide) fun pos => ?_
  rw [← word_toList hn]
  exact token_var hc hcs hr pos

theorem reads_digits {ds : List Char} (hd : ∀ c ∈ ds, c.isDigit = true) (hne : ds ≠ [])
    (hv : Nat.ofDigitChars 10 ds 0 < 2 ^ 64) {rest : List Char} (hf : Follows rest) :
    Reads ds [.integer (Nat.ofDigitChars 10 ds 0)] rest := by
  obtain ⟨c, cs, rfl⟩ := List.exists_cons_of_ne_nil hne
  have hc := hd c (by simp)
  refine reads_token (c :: cs).length (isBlank_of_isDigit hc) fun pos => ?_
  obtain ⟨h, e⟩ := spanWhile_append cs rest (fun x hx => hd x (by simp [hx]))
    (fun y hy => hf.not_isDigit hy)
  have hv' : digitsValue (c :: cs) < 2 ^ 64 := hv
  rw [token_of_isDigit hc, number, e]
  dsimp only
  split
  · rename_i _ d _ _
    rw [if_neg (by simp [hf.2 rfl d rfl]), if_pos hv']
    rfl
  · rw [if_pos hv']
    rfl

theorem reads_decimal {ip fp : List Char} (hip : ip ≠ []) (hfp : fp ≠ [])
    (hd : ∀ c ∈ ip ++ fp, c.isDigit = true) {rest : List Char} (hf : Follows rest) :
    Reads (ip ++ '.' :: fp) [.decimal (String.ofList (ip ++ '.' :: fp))] rest := by
  obtain ⟨c, cs, rfl⟩ := List.exists_cons_of_ne_nil hip
  obtain ⟨f, fs, rfl⟩ := List.exists_cons_of_ne_nil hfp
  have hc := hd c (by simp)
  have hf0 := hd f (by simp)
  rw [List.cons_append]
  refine reads_token (c :: cs ++ '.' :: f :: fs).length (isBlank_of_isDigit hc) fun pos => ?_
  obtain ⟨h, e⟩ := spanWhile_append (p := Char.isDigit) cs ('.' :: f :: fs ++ rest)
    (fun x hx => hd x (by simp [hx])) (by simp)
  obtain ⟨h', e'⟩ := spanWhile_append fs rest (fun x hx => hd x (by simp [hx]))
    (fun y hy => hf.not_isDigit hy)
  rw [List.append_assoc, token_of_isDigit hc, number, e]
  simp [stepOut, Except.map, hf0, e']

def bodyOut {cs : List Char} (b : Option (List Char × { r : List Char // r.length < cs.length })) :
    Option (List Char × List Char) :=
  b.map fun x => (x.1, x.2.val)

theorem bodyOut_quote (q : Char) (rest : List Char) :
    bodyOut (stringBody q (q :: rest)) = some ([], rest) := by
  rw [stringBody.eq_def]
  simp [bodyOut]

theorem bodyOut_backslash {q : Char} (hq : q ≠ '\\') (d : Char) (more : List Char) :
    bodyOut (stringBody q ('\\' :: d :: more)) =
      (bodyOut (stringBody q more)).map fun x => ('\\' :: d :: x.1, x.2) := by
  rw [stringBody.eq_def]
  simp only [Ne.symm hq, if_false, if_true]
  rcases stringBody q more with _ | ⟨body, r, h⟩ <;> rfl

theorem bodyOut_plain {q c : Char} (hq : c ≠ q) (hb : c ≠ '\\') (more : List Char) :
    bodyOut (stringBody q (c :: more)) = (bodyOut (stringBody q more)).map fun x => (c :: x.1, x.2) := by
  rw [stringBody.eq_def]
  simp only [hq, hb, if_false]
  rcases stringBody q more with _ | ⟨body, r, h⟩ <;> rfl

theorem stringBody_escape (rest : List Char) :
    ∀ cs : List Char, bodyOut (stringBody '\'' (escape cs ++ '\'' :: rest)) = some (escape cs, rest)
  | [] => by rw [escape_nil, List.nil_append, bodyOut_quote]
  | c :: cs => by
    have ih := stringBody_escape rest cs
    rw [escape_cons]
    by_cases hq : c = '\\' ∨ c = '\''
    · rw [if_pos hq]
      simp only [List.cons_append, List.nil_append]
      rw [bodyOut_backslash (q := '\'') (by decide), ih]
      rfl
    · simp only [not_or] at hq
      rw [if_neg (by simp [hq.1, hq.2])]
      simp only [List.cons_append, List.nil_append]
      rw [bodyOut_plain hq.2 hq.1, ih]
      rfl

theorem reads_string (cs rest : List Char) :
    Reads ('\'' :: escape cs ++ ['\'']) [.str (String.ofList (escape cs))] rest := by
  refine reads_token (width (escape cs) + 2) (by decide) fun pos => ?_
  have e := stringBody_escape rest cs
  rw [List.append_eq, List.append_assoc, List.singleton_append]
  show stepOut (quoted '\'' (escape cs ++ '\'' :: rest) pos) = _
  unfold quoted
  rcases hs : stringBody '\'' (escape cs ++ '\'' :: rest) with _ | ⟨body, r, h⟩
  · rw [hs] at e; cases e
  · rw [hs] at e
    simp only [bodyOut, Option.map_some, Option.some.injEq, Prod.mk.injEq] at e
    obtain ⟨rfl, rfl⟩ := e
    rfl

theorem reads_nat {m : Nat} (hm : m < 2 ^ 64) {rest : List Char} (hf : Follows rest) :
    Reads (Nat.toDigits 10 m) [.integer m] rest := by
  have hd : ∀ c ∈ Nat.toDigits 10 m, c.isDigit = true := fun c hc =>
    Nat.isDigit_of_mem_toDigits (by decide) (by decide) hc
  have h := reads_digits hd Nat.toDigits_ne_nil (by rw [Nat.ofDigitChars_ten_toDigits]; exact hm) hf
  rwa [Nat.ofDigitChars_ten_toDigits] at h

theorem reads_render {d : Decimal} (hn : d.neg = false) (hs : d.scale ≠ 0) {rest : List Char}
    (hf : Follows rest) : Reads d.render.toList [.decimal d.render] rest := by
  obtain ⟨ip, fp, e, hip, hfp, hd⟩ := Decimal.render_toList_point hn hs
  have hfp' : fp ≠ [] := by
    rintro rfl
    exact hs hfp.symm
  have h := reads_decimal hip hfp' (by rw [hd]; exact fun c hc => Decimal.isDigit_of_mem_digits hc) hf
  rwa [← e, String.ofList_toList] at h

theorem reads_negated {cs : List Char} {t : Token} {rest : List Char}
    (h : Reads cs [t] ([')'] ++ rest)) :
    Reads ("(-".toList ++ cs ++ [')']) [.lparen, .minus, t, .rparen] rest :=
  Reads.append (Reads.append (Reads.append (reads_punct (by decide) _) (reads_punct (by decide) _)) h)
    (reads_punct (by decide) rest)

theorem reads_literal {l : Literal} (hp : l.Pointed) {rest : List Char} (hf : Follows rest) :
    Reads l.text l.toks rest := by
  have hw : ∀ c ∈ rest.head?, isIdContinue c = false := fun _ hc => hf.not_isIdContinue hc
  have hclose : Follows ([')'] ++ rest) := follows_punct (by simp) rest
  cases l with
  | null => exact reads_word ⟨'n', "ull".toList, rfl, by decide, List.all_eq_true.mp (by decide)⟩ hw
  | bool b =>
    cases b
    · exact reads_word ⟨'f', "alse".toList, rfl, by decide, List.all_eq_true.mp (by decide)⟩ hw
    · exact reads_word ⟨'t', "rue".toList, rfl, by decide, List.all_eq_true.mp (by decide)⟩ hw
  | int n =>
    have hlo := Int64.le_toInt n
    have hhi := Int64.toInt_lt n
    simp only [Literal.text, Literal.toks]
    split
    · exact reads_negated (reads_nat (by omega) hclose)
    · exact reads_nat (by omega) hf
  | dec d =>
    simp only [Literal.text, Literal.toks]
    split
    · rename_i hn
      exact reads_negated (reads_render (d := d.negate) (by simp [Decimal.negate, hn]) hp hclose)
    · rename_i hn
      exact reads_render (by simpa using hn) hp hf
  | str s => exact reads_string s.toList rest

theorem reads_punct_blank {c : Char} {t : Token} (h : (c, t) ∈ puncts) (rest : List Char) :
    Reads [c, ' '] [t] rest :=
  (reads_punct h _).append (Reads.blank (by decide) (Reads.nil rest))

theorem Follows.idEnd {cs : List Char} (h : Follows cs) : ∀ c ∈ cs.head?, isIdContinue c = false :=
  fun _ hc => h.not_isIdContinue hc

theorem Word.head_not_digit {n : String} (hw : Word n) (cs : List Char) :
    ∀ d ∈ (n.toList ++ cs).head?, d.isDigit = false := by
  obtain ⟨c, _, hn, hc, _⟩ := hw
  simp only [hn, List.cons_append, List.head?_cons, Option.mem_def, Option.some.injEq]
  rintro d rfl
  exact isDigit_of_isIdStart hc

theorem reads_symbol (op : BinOp) (rest : List Char) :
    Reads op.symbol.toList op.toks (' ' :: rest) := by
  have hw := (follows_punct (c := ' ') (by simp) rest).idEnd
  cases op
  case mem => exact reads_word ⟨'i', ['n'], rfl, by decide, List.all_eq_true.mp (by decide)⟩ hw
  case notMem =>
    show Reads ("not".toList ++ ' ' :: "in".toList) ([memberToken "not"] ++ [memberToken "in"]) _
    exact Reads.append (reads_word ⟨'n', ['o', 't'], rfl, by decide, List.all_eq_true.mp (by decide)⟩
      (follows_punct (c := ' ') (by simp) _).idEnd)
      (Reads.blank (by decide) (reads_word ⟨'i', ['n'], rfl, by decide, List.all_eq_true.mp (by decide)⟩ hw))
  all_goals first
    | exact reads_single (by decide) fun _ => rfl
    | exact reads_pair (by decide) fun _ => rfl

theorem reads_opSymbol (op : UnOp) {rest : List Char} (hr : ∀ c ∈ rest.head?, c ≠ '=') :
    Reads op.symbol.toList [op.token] rest := by
  cases op
  · exact reads_punct (by decide) rest
  · exact reads_single (by decide) fun pos => token_lone (by decide) hr pos

end TypedExpr.Lexer

namespace TypedExpr
open Lexer Text

theorem Expr.text_head {t : Expr} (hr : t.Readable) : ∃ c cs, t.text = c :: cs ∧ c ≠ '=' := by
  have digit : ∀ c : Char, c.isDigit = true → c ≠ '=' := by
    rintro c hc rfl
    exact absurd hc (by decide)
  have name : ∀ c : Char, isIdStart c = true → c ≠ '=' := by
    rintro c hc rfl
    exact absurd hc (by decide)
  cases hr with
  | lit l =>
    cases l with
    | null => exact ⟨'n', _, rfl, by decide⟩
    | bool b => cases b <;> exact ⟨_, _, rfl, by decide⟩
    | int n =>
      simp only [Expr.text, Literal.text]
      split
      · exact ⟨'(', _, rfl, by decide⟩
      · obtain ⟨c, cs, e⟩ := List.exists_cons_of_ne_nil (Nat.toDigits_ne_nil (b := 10) (n := n.toInt.toNat))
        have hc : c ∈ Nat.toDigits 10 n.toInt.toNat := by rw [e]; exact List.mem_cons_self
        exact ⟨c, cs, e, digit c (Nat.isDigit_of_mem_toDigits (by decide) (by decide) hc)⟩
    | dec d =>
      simp only [Expr.text, Literal.text]
      split
      · exact ⟨'(', _, rfl, by decide⟩
      · rename_i hn
        obtain ⟨c, cs, e⟩ := List.exists_cons_of_ne_nil (Decimal.digits_ne_nil d)
        have hc : c ∈ d.digits := by rw [e]; exact List.mem_cons_self
        have hh := Decimal.head?_render (d := d) (by simpa using hn)
        rw [e, List.head?_cons] at hh
        obtain ⟨cs', hcs⟩ := List.head?_eq_some_iff.mp hh
        exact ⟨c, cs', hcs, digit c (Decimal.isDigit_of_mem_digits hc)⟩
    | str s => exact ⟨'\'', _, rfl, by decide⟩
  | var => exact ⟨'#', _, rfl, by decide⟩
  | root hw =>
    obtain ⟨c, cs, hn, hc, _⟩ := hw
    exact ⟨c, cs, by simp [Expr.text, hn], name c hc⟩
  | rootCall hw =>
    obtain ⟨c, cs, hn, hc, _⟩ := hw
    exact ⟨c, _, by rw [Expr.text, hn]; rfl, name c hc⟩
  | list => exact ⟨'{', _, rfl, by decide⟩
  | map => exact ⟨'#', _, rfl, by decide⟩
  | _ => exact ⟨'(', _, rfl, by decide⟩

theorem Expr.lits_subset_litsList {a : Expr} {items : List Expr} (h : a ∈ items) :
    a.lits ⊆ Expr.litsList items := by
  induction items with
  | nil => cases h
  | cons e es ih =>
    intro l hl
    rcases List.mem_cons.mp h with rfl | h
    · simp [Expr.litsList, hl]
    · simp [Expr.litsList, ih h hl]

theorem Expr.lits_subset_litsPairs {e : Expr × Expr} {es : List (Expr × Expr)} (h : e ∈ es) :
    e.1.lits ⊆ Expr.litsPairs es ∧ e.2.lits ⊆ Expr.litsPairs es := by
  induction es with
  | nil => cases h
  | cons e' es ih =>
    obtain ⟨k, v⟩ := e'
    rcases List.mem_cons.mp h with rfl | h
    · exact ⟨fun l hl => by simp [Expr.litsPairs, hl], fun l hl => by simp [Expr.litsPairs, hl]⟩
    · exact ⟨fun l hl => by simp [Expr.litsPairs, (ih h).1 hl],
        fun l hl => by simp [Expr.litsPairs, (ih h).2 hl]⟩

def Expr.Scans (t : Expr) : Prop := ∀ rest, Follows rest → Reads t.text t.toks rest

namespace Expr.Scans

theorem items {items : List Expr} (h : ∀ a ∈ items, Scans a) {rest : List Char} (hf : Follows rest) :
    Reads (Expr.textList items) (Expr.toksList items) rest := by
  induction items with
  | nil => exact Reads.nil rest
  | cons e es ih =>
    have he := h e List.mem_cons_self
    have hes := ih fun a ha => h a (List.mem_cons_of_mem _ ha)
    cases es with
    | nil => simpa [Expr.textList, Expr.toksList] using he rest hf
    | cons e' es' =>
      rw [Expr.textList.eq_3 _ _ (List.cons_ne_nil _ _), Expr.toksList.eq_3 _ _ (List.cons_ne_nil _ _)]
      have hs := Reads.append (Reads.append (he _ (follows_punct (c := ',') (by simp) _))
        (reads_punct_blank (t := .comma) (by decide) _)) hes
      simpa only [String.reduceToList, List.append_assoc, List.cons_append, List.nil_append] using hs

theorem entry {k v : Expr} (hk : Scans k) (hv : Scans v) {rest : List Char} (hf : Follows rest) :
    Reads (k.text ++ ": ".toList ++ v.text) (k.toks ++ .colon :: v.toks) rest := by
  have h := Reads.append (Reads.append (hk _ (follows_punct (c := ':') (by simp) _))
    (reads_punct_blank (t := .colon) (by decide) _)) (hv rest hf)
  simpa only [String.reduceToList, List.append_assoc, List.cons_append, List.nil_append] using h

theorem entries {es : List (Expr × Expr)} (h : ∀ e ∈ es, Scans e.1 ∧ Scans e.2) {rest : List Char}
    (hf : Follows rest) : Reads (Expr.textPairs es) (Expr.toksPairs es) rest := by
  induction es with
  | nil => exact Reads.nil rest
  | cons e es ih =>
    obtain ⟨k, v⟩ := e
    have he := h (k, v) List.mem_cons_self
    have hes := ih fun a ha => h a (List.mem_cons_of_mem _ ha)
    cases es with
    | nil => simpa [Expr.textPairs, Expr.toksPairs] using entry he.1 he.2 hf
    | cons e' es' =>
      rw [Expr.textPairs.eq_3 _ _ _ (List.cons_ne_nil _ _), Expr.toksPairs.eq_3 _ _ _ (List.cons_ne_nil _ _)]
      have hs := Reads.append (Reads.append (entry he.1 he.2 (follows_punct (c := ',') (by simp) _))
        (reads_punct_blank (t := .comma) (by decide) _)) hes
      simpa only [String.reduceToList, List.append_assoc, List.cons_append, List.nil_append] using hs

theorem lit {l : Literal} (hp : l.Pointed) : Scans (.lit l) :=
  fun _ hf => reads_literal hp hf

theorem var {n : String} (hw : Word n) : Scans (.var n) :=
  fun _ hf => reads_var hw hf.idEnd

theorem root {n : String} (hw : Word n) (hk : Token.keyword? n = none) : Scans (.prop none n) := by
  intro rest hf
  simpa [Expr.text, Expr.toks, memberToken, hk] using reads_word hw hf.idEnd

theorem prop {b : Expr} {n : String} (hb : Scans b) (hw : Word n) : Scans (.prop (some b) n) := by
  intro rest hf
  have h : Reads (['('] ++ b.text ++ ['.'] ++ n.toList ++ [')'])
      ([Token.lparen] ++ b.toks ++ [Token.dot] ++ [memberToken n] ++ [Token.rparen]) rest :=
    .append (.append (.append (.append (reads_punct (by decide) _)
      (hb _ (follows_dot (Word.head_not_digit hw _)))) (reads_punct (by decide) _))
      (reads_word hw (follows_punct (c := ')') (by simp) _).idEnd)) (reads_punct (by decide) rest)
  simpa [Expr.text, Expr.toks] using h

theorem index {b i : Expr} (hb : Scans b) (hi : Scans i) : Scans (.index b i) := by
  intro rest hf
  have h : Reads (['('] ++ b.text ++ ['['] ++ i.text ++ [']'] ++ [')'])
      ([Token.lparen] ++ b.toks ++ [Token.lbracket] ++ i.toks ++ [Token.rbracket] ++ [Token.rparen]) rest :=
    .append (.append (.append (.append (.append (reads_punct (by decide) _)
      (hb _ (follows_punct (c := '[') (by simp) _))) (reads_punct (by decide) _))
      (hi _ (follows_punct (c := ']') (by simp) _))) (reads_punct (by decide) _))
      (reads_punct (by decide) rest)
  simpa [Expr.text, Expr.toks] using h

theorem rootCall {m : String} {args : List Expr} (hw : Word m) (hk : Token.keyword? m = none)
    (ha : ∀ a ∈ args, Scans a) : Scans (.call none m args) := by
  intro rest hf
  have h : Reads (m.toList ++ ['('] ++ Expr.textList args ++ [')'])
      ([memberToken m] ++ [Token.lparen] ++ Expr.toksList args ++ [Token.rparen]) rest :=
    .append (.append (.append (reads_word hw (follows_punct (c := '(') (by simp) _).idEnd)
      (reads_punct (by decide) _)) (items ha (follows_punct (c := ')') (by simp) _)))
      (reads_punct (by decide) rest)
  simpa [Expr.text, Expr.toks, memberToken, hk] using h

theorem call {b : Expr} {m : String} {args : List Expr} (hb : Scans b) (hw : Word m)
    (ha : ∀ a ∈ args, Scans a) : Scans (.call (some b) m args) := by
  intro rest hf
  have h : Reads (['('] ++ b.text ++ ['.'] ++ m.toList ++ ['('] ++ Expr.textList args ++ [')'] ++ [')'])
      ([Token.lparen] ++ b.toks ++ [Token.dot] ++ [memberToken m] ++ [Token.lparen] ++ Expr.toksList args ++
        [Token.rparen] ++ [Token.rparen]) rest :=
    .append (.append (.append (.append (.append (.append (.append (reads_punct (by decide) _)
      (hb _ (follows_dot (Word.head_not_digit hw _)))) (reads_punct (by decide) _))
      (reads_word hw (follows_punct (c := '(') (by simp) _).idEnd)) (reads_punct (by decide) _))
      (items ha (follows_punct (c := ')') (by simp) _))) (reads_punct (by decide) _))
      (reads_punct (by decide) rest)
  simpa [Expr.text, Expr.toks] using h

theorem project {b m : Expr} (hb : Scans b) (hm : Scans m) : Scans (.project b m) := by
  intro rest hf
  have h : Reads (['('] ++ b.text ++ ['.'] ++ ['\x7b'] ++ (' ' :: m.text) ++ [' ', '\x7d'] ++ [')'])
      ([Token.lparen] ++ b.toks ++ [Token.dot] ++ [Token.lbrace] ++ m.toks ++ [Token.rbrace] ++ [Token.rparen]) rest :=
    .append (.append (.append (.append (.append (.append (reads_punct (by decide) _)
      (hb _ (follows_dot (by simp [Char.isDigit])))) (reads_punct (by decide) _))
      (reads_punct (by decide) _)) (.blank (by decide) (hm _ (follows_punct (c := ' ') (by simp) _))))
      (.blank (by decide) (reads_punct (by decide) _))) (reads_punct (by decide) rest)
  simpa [Expr.text, Expr.toks] using h

theorem select {b c : Expr} (hb : Scans b) (hc : Scans c) : Scans (.select b c) := by
  intro rest hf
  have h : Reads (['('] ++ b.text ++ ['.'] ++ ['\x7b'] ++ ['?'] ++ (' ' :: c.text) ++ [' ', '\x7d'] ++
      [')']) ([Token.lparen] ++ b.toks ++ [Token.dot] ++ [Token.lbrace] ++ [Token.question] ++ c.toks ++ [Token.rbrace] ++
      [Token.rparen]) rest :=
    .append (.append (.append (.append (.append (.append (.append (reads_punct (by decide) _)
      (hb _ (follows_dot (by simp [Char.isDigit])))) (reads_punct (by decide) _))
      (reads_punct (by decide) _)) (reads_punct (by decide) _))
      (.blank (by decide) (hc _ (follows_punct (c := ' ') (by simp) _))))
      (.blank (by decide) (reads_punct (by decide) _))) (reads_punct (by decide) rest)
  simpa [Expr.text, Expr.toks] using h

theorem binary {op : BinOp} {l r : Expr} (hl : Scans l) (hr : Scans r) : Scans (.binary op l r) := by
  intro rest hf
  have h : Reads (['('] ++ l.text ++ (' ' :: op.symbol.toList) ++ (' ' :: r.text) ++ [')'])
      ([Token.lparen] ++ l.toks ++ op.toks ++ r.toks ++ [Token.rparen]) rest :=
    .append (.append (.append (.append (reads_punct (by decide) _)
      (hl _ (follows_punct (c := ' ') (by simp) _))) (.blank (by decide) (reads_symbol op _)))
      (.blank (by decide) (hr _ (follows_punct (c := ')') (by simp) _)))) (reads_punct (by decide) rest)
  simpa [Expr.text, Expr.toks] using h

theorem unary {op : UnOp} {e : Expr} (he : Scans e) (hh : ∃ c cs, e.text = c :: cs ∧ c ≠ '=') :
    Scans (.unary op e) := by
  intro rest hf
  obtain ⟨c, cs, e', hc⟩ := hh
  have h : Reads (['('] ++ op.symbol.toList ++ e.text ++ [')'])
      ([Token.lparen] ++ [op.token] ++ e.toks ++ [Token.rparen]) rest :=
    .append (.append (.append (reads_punct (by decide) _)
      (reads_opSymbol op (by simp [e', hc]))) (he _ (follows_punct (c := ')') (by simp) _)))
      (reads_punct (by decide) rest)
  simpa [Expr.text, Expr.toks] using h

theorem cond {c a b : Expr} (hc : Scans c) (ha : Scans a) (hb : Scans b) : Scans (.cond c a b) := by
  intro rest hf
  have h : Reads (['('] ++ c.text ++ [' ', '?'] ++ (' ' :: a.text) ++ [' ', ':'] ++ (' ' :: b.text) ++
      [')']) ([Token.lparen] ++ c.toks ++ [Token.question] ++ a.toks ++ [Token.colon] ++ b.toks ++ [Token.rparen]) rest :=
    .append (.append (.append (.append (.append (.append (reads_punct (by decide) _)
      (hc _ (follows_punct (c := ' ') (by simp) _))) (.blank (by decide) (reads_punct (by decide) _)))
      (.blank (by decide) (ha _ (follows_punct (c := ' ') (by simp) _))))
      (.blank (by decide) (reads_punct (by decide) _)))
      (.blank (by decide) (hb _ (follows_punct (c := ')') (by simp) _)))) (reads_punct (by decide) rest)
  simpa [Expr.text, Expr.toks] using h

theorem list {items : List Expr} (ha : ∀ a ∈ items, Scans a) : Scans (.list items) := by
  intro rest hf
  have h : Reads (['\x7b'] ++ Expr.textList items ++ ['\x7d'])
      ([Token.lbrace] ++ Expr.toksList items ++ [Token.rbrace]) rest :=
    .append (.append (reads_punct (by decide) _) (Scans.items ha (follows_punct (c := '\x7d') (by simp) _)))
      (reads_punct (by decide) rest)
  simpa [Expr.text, Expr.toks] using h

theorem map {es : List (Expr × Expr)} (he : ∀ e ∈ es, Scans e.1 ∧ Scans e.2) : Scans (.map es) := by
  intro rest hf
  have h : Reads (['#', '\x7b'] ++ Expr.textPairs es ++ ['\x7d'])
      ([Token.hashBrace] ++ Expr.toksPairs es ++ [Token.rbrace]) rest :=
    .append (.append (reads_pair (by decide) fun _ => rfl)
      (entries he (follows_punct (c := '\x7d') (by simp) _))) (reads_punct (by decide) rest)
  simpa [Expr.text, Expr.toks] using h

end Expr.Scans

theorem Expr.scans {t : Expr} (hr : t.Readable) (hp : ∀ l ∈ t.lits, l.Pointed) : t.Scans := by
  induction hr with
  | lit l => exact Scans.lit (hp l (by simp [Expr.lits]))
  | var hw => exact Scans.var hw
  | root hw hk => exact Scans.root hw hk
  | prop _ hw ih => exact Scans.prop (ih (by simpa [Expr.lits] using hp)) hw
  | index _ _ ihb ihi =>
    simp only [Expr.lits, List.mem_append] at hp
    exact Scans.index (ihb fun l h => hp l (.inl h)) (ihi fun l h => hp l (.inr h))
  | rootCall hw hk _ ih =>
    simp only [Expr.lits] at hp
    exact Scans.rootCall hw hk fun a ha => ih a ha fun l hl => hp l (lits_subset_litsList ha hl)
  | call _ hw _ ihb ih =>
    simp only [Expr.lits, List.mem_append] at hp
    exact Scans.call (ihb fun l h => hp l (.inl h)) hw
      fun a ha => ih a ha fun l hl => hp l (.inr (lits_subset_litsList ha hl))
  | project _ _ ihb ihm =>
    simp only [Expr.lits, List.mem_append] at hp
    exact Scans.project (ihb fun l h => hp l (.inl h)) (ihm fun l h => hp l (.inr h))
  | select _ _ ihb ihc =>
    simp only [Expr.lits, List.mem_append] at hp
    exact Scans.select (ihb fun l h => hp l (.inl h)) (ihc fun l h => hp l (.inr h))
  | binary _ _ ihl ihr =>
    simp only [Expr.lits, List.mem_append] at hp
    exact Scans.binary (ihl fun l h => hp l (.inl h)) (ihr fun l h => hp l (.inr h))
  | unary he _ ih => exact Scans.unary (ih (by simpa [Expr.lits] using hp)) (Expr.text_head he)
  | cond _ _ _ ihc iha ihb =>
    simp only [Expr.lits, List.mem_append] at hp
    exact Scans.cond (ihc fun l h => hp l (.inl (.inl h))) (iha fun l h => hp l (.inl (.inr h)))
      (ihb fun l h => hp l (.inr h))
  | list _ ih =>
    simp only [Expr.lits] at hp
    exact Scans.list fun a ha => ih a ha fun l hl => hp l (lits_subset_litsList ha hl)
  | map _ _ ihk ihv =>
    simp only [Expr.lits] at hp
    exact Scans.map fun e he => ⟨ihk e he fun l hl => hp l ((lits_subset_litsPairs he).1 hl),
      ihv e he fun l hl => hp l ((lits_subset_litsPairs he).2 hl)⟩

theorem Expr.scan_print {t : Expr} (hr : t.Readable) (hp : ∀ l ∈ t.lits, l.Pointed) :
    ∃ ts, Lexer.scan t.print = .ok ts ∧ ts.map (·.value) = t.toks := by
  obtain ⟨pos, new, hv, e⟩ := Expr.scans hr hp [] follows_nil 0 []
  refine ⟨new, ?_, hv⟩
  rw [Lexer.scan, Expr.print, String.toList_ofList, ← List.append_nil t.text, e, scanFrom]
  simp [spanWhile]


end TypedExpr
