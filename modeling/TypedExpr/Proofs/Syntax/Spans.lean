import TypedExpr.Proofs.Syntax.Reparse

/-! Where the scanner's tokens stand in their text. A successful scan tiles the text: blanks, the
text of a token, blanks, the text of the next token, and so on (`Tiles`), each token spanning the
bytes of its own text. -/

namespace TypedExpr.Lexer
open Text

@[simp] theorem width_eq_utf8Len (cs : List Char) : width cs = String.utf8Len cs := by
  induction cs with
  | nil => rfl
  | cons c cs ih =>
    show c.utf8Size + width cs = _
    rw [ih, String.utf8Len_cons, Nat.add_comm]

theorem utf8Len_of_ascii {cs : List Char} (h : ∀ x ∈ cs, x.utf8Size = 1) :
    String.utf8Len cs = cs.length := by
  induction cs with
  | nil => rfl
  | cons c cs ih =>
    rw [String.utf8Len_cons, ih fun x hx => h x (List.mem_cons_of_mem c hx), h c List.mem_cons_self]
    rfl

theorem utf8Size_of_isDigit {c : Char} (h : c.isDigit = true) : c.utf8Size = 1 := by
  have h' := Char.isDigit_iff_toNat.mp h
  simp at h'
  exact Char.utf8Size_eq_one_iff.mpr (by rw [UInt32.le_iff_toNat_le]; simp; omega)

theorem step_ok_inj {n : Nat} {t t' : Token} {w w' : Nat} {r r' : List Char}
    {h : r.length ≤ n} {h' : r'.length ≤ n}
    (e : (.ok (t, w, ⟨r, h⟩) : Except ParseError (Token × Nat × { r : List Char // r.length ≤ n })) =
      .ok (t', w', ⟨r', h'⟩)) :
    t = t' ∧ w = w' ∧ r = r' := by
  simp only [Except.ok.injEq, Prod.mk.injEq, Subtype.mk.injEq] at e
  exact e

theorem stepOut_ok {rest : List Char} {s : Step rest} {t : Token} {w : Nat} {r : List Char}
    (h : stepOut s = .ok (t, w, r)) : ∃ hr, s = .ok (t, w, ⟨r, hr⟩) := by
  rcases s with _ | ⟨t', w', r', hr⟩
  · cases h
  · simp only [stepOut, Except.map, Except.ok.injEq, Prod.mk.injEq] at h
    obtain ⟨rfl, rfl, rfl⟩ := h
    exact ⟨hr, rfl⟩

/-! ### Lexemes -/

def Ends (rest : List Char) : Prop := ∀ d ∈ rest.head?, isBlank d = true

theorem ends_nil : Ends [] := fun _ h => by cases h

theorem ends_space (cs : List Char) : Ends (' ' :: cs) := fun _ h => by cases h; rfl

theorem Ends.not_head {rest : List Char} (h : Ends rest) {c : Char} (hc : isBlank c = false) :
    ∀ d ∈ rest.head?, d ≠ c := by
  rintro d hd rfl
  rw [h d hd] at hc
  cases hc

theorem Ends.follows {rest : List Char} (h : Ends rest) : Follows rest := by
  cases rest with
  | nil => exact follows_nil
  | cons d ds =>
    have hd := h d rfl
    refine ⟨Bool.eq_false_iff.mpr fun hi => ?_, fun hdot => ?_⟩
    · rw [isBlank_of_isIdContinue hi] at hd
      cases hd
    · exact absurd (hdot ▸ hd) (by decide)

def Lexeme (lex : List Char) (t : Token) : Prop :=
  ∃ c body, lex = c :: body ∧ isBlank c = false ∧
    ∀ rest, Ends rest → ∀ pos, stepOut (token c (body ++ rest) pos) = .ok (t, width lex, rest)

theorem Lexeme.width_pos {lex : List Char} {t : Token} (h : Lexeme lex t) : 0 < width lex := by
  obtain ⟨c, body, rfl, -, -⟩ := h
  have := c.utf8Size_pos
  simp only [width_eq_utf8Len, String.utf8Len_cons]
  omega

theorem Lexeme.reads {lex : List Char} {t : Token} (h : Lexeme lex t) {rest : List Char}
    (hr : Ends rest) : Reads lex [t] rest := by
  obtain ⟨c, body, rfl, hc, hstep⟩ := h
  exact reads_token _ hc (hstep rest hr)

theorem Lexeme.scan_alone {lex : List Char} {t : Token} (h : Lexeme lex t) :
    scan (String.ofList lex) = .ok [⟨t, 0, width lex⟩] := by
  obtain ⟨c, body, rfl, hc, hstep⟩ := h
  have e := hstep [] ends_nil 0
  rw [List.append_nil] at e
  obtain ⟨hr, hs⟩ := stepOut_ok e
  rw [scan, String.toList_ofList, scanFrom_token hc hs, Parser.scanFrom_nil]
  simp

theorem lexeme_single {c : Char} {t : Token} (hc : isBlank c = false) (hw : c.utf8Size = 1)
    (h : ∀ rest, Ends rest → ∀ pos, token c rest pos = single t rest) : Lexeme [c] t :=
  ⟨c, [], rfl, hc, fun rest hr pos => by
    rw [List.nil_append, h rest hr pos]
    simp [single, stepOut, Except.map, hw]⟩

theorem lexeme_pair {c d : Char} {t : Token} (hc : isBlank c = false)
    (hw : c.utf8Size = 1 ∧ d.utf8Size = 1)
    (h : ∀ rest pos, stepOut (token c (d :: rest) pos) = .ok (t, 2, rest)) : Lexeme [c, d] t :=
  ⟨c, [d], rfl, hc, fun rest _ pos => by simpa [hw.1, hw.2] using h rest pos⟩

theorem lexeme_word {c : Char} {ds : List Char} (hc : isIdStart c = true)
    (hds : ∀ x ∈ ds, isIdContinue x = true) :
    Lexeme (c :: ds) (memberToken (String.ofList (c :: ds))) := by
  refine ⟨c, ds, rfl, isBlank_of_isIdStart hc, fun rest hr pos => ?_⟩
  obtain ⟨h, e⟩ := spanWhile_append ds rest hds hr.follows.idEnd
  rw [token_of_isIdStart hc, word, e]
  rfl

theorem lexeme_var {d : Char} {ds : List Char} (hd : isIdStart d = true)
    (hds : ∀ x ∈ ds, isIdContinue x = true) :
    Lexeme ('#' :: d :: ds) (.var (String.ofList (d :: ds))) := by
  refine ⟨'#', d :: ds, rfl, by decide, fun rest hr pos => ?_⟩
  have hw : width ('#' :: d :: ds) = 1 + width (d :: ds) := rfl
  rw [hw]
  exact token_var hd hds hr.follows.idEnd pos

theorem width_of_digits {cs : List Char} (h : ∀ x ∈ cs, x.isDigit = true ∨ x = '.') :
    width cs = cs.length := by
  rw [width_eq_utf8Len, utf8Len_of_ascii]
  intro x hx
  rcases h x hx with hd | rfl
  · exact utf8Size_of_isDigit hd
  · rfl

theorem width_integer {c : Char} {ds : List Char} (hc : c.isDigit = true)
    (hds : ∀ x ∈ ds, x.isDigit = true) : width (c :: ds) = (c :: ds).length := by
  refine width_of_digits fun x hx => .inl ?_
  rcases List.mem_cons.mp hx with rfl | hx
  exacts [hc, hds x hx]

theorem width_decimal {c d : Char} {ds fs : List Char} (hc : c.isDigit = true)
    (hds : ∀ x ∈ ds, x.isDigit = true) (hd : d.isDigit = true) (hfs : ∀ x ∈ fs, x.isDigit = true) :
    width (c :: ds ++ '.' :: d :: fs) = (c :: ds ++ '.' :: d :: fs).length := by
  refine width_of_digits fun x hx => ?_
  simp only [List.cons_append, List.mem_cons, List.mem_append] at hx
  rcases hx with rfl | (hx | rfl | rfl | hx)
  exacts [.inl hc, .inl (hds x hx), .inr rfl, .inl hd, .inl (hfs x hx)]

theorem lexeme_integer {c : Char} {ds : List Char} (hc : c.isDigit = true)
    (hds : ∀ x ∈ ds, x.isDigit = true) (hn : digitsValue (c :: ds) < 2 ^ 64) :
    Lexeme (c :: ds) (.integer (digitsValue (c :: ds))) := by
  refine ⟨c, ds, rfl, isBlank_of_isDigit hc, fun rest hr pos => ?_⟩
  obtain ⟨h, e⟩ := spanWhile_append ds rest hds fun y hy => hr.follows.not_isDigit hy
  rw [token_of_isDigit hc, number, e, width_integer hc hds]
  dsimp only
  split
  · -- a blank, not a point, follows the digits
    exact absurd (hr '.' rfl) (by decide)
  · rw [if_pos hn]
    rfl

theorem lexeme_decimal {c d : Char} {ds fs : List Char} (hc : c.isDigit = true)
    (hds : ∀ x ∈ ds, x.isDigit = true) (hd : d.isDigit = true) (hfs : ∀ x ∈ fs, x.isDigit = true) :
    Lexeme (c :: ds ++ '.' :: d :: fs) (.decimal (String.ofList (c :: ds ++ '.' :: d :: fs))) := by
  refine ⟨c, ds ++ '.' :: d :: fs, rfl, isBlank_of_isDigit hc, fun rest hr pos => ?_⟩
  obtain ⟨h, e⟩ := spanWhile_append (p := Char.isDigit) ds ('.' :: d :: fs ++ rest) hds (by simp)
  obtain ⟨h', e'⟩ := spanWhile_append fs rest hfs fun y hy => hr.follows.not_isDigit hy
  rw [width_decimal hc hds hd hfs, List.append_assoc, token_of_isDigit hc, number, e]
  simp [stepOut, Except.map, hd, e']

theorem quote_ascii {q : Char} (hq : q = '\'' ∨ q = '"') :
    q.utf8Size = 1 ∧ isBlank q = false ∧ q ≠ '\\' := by
  rcases hq with rfl | rfl <;> decide

theorem token_quote {q : Char} (hq : q = '\'' ∨ q = '"') (rest : List Char) (pos : Nat) :
    token q rest pos = quoted q rest pos := by
  rcases hq with rfl | rfl <;> rfl

theorem stringBody_local {q : Char} (hq : q ≠ '\\') {cs body r : List Char}
    {h : r.length < cs.length} (hs : stringBody q cs = some (body, ⟨r, h⟩)) :
    cs = body ++ q :: r ∧ ∀ rest, bodyOut (stringBody q (body ++ q :: rest)) = some (body, rest) := by
  fun_induction stringBody q cs generalizing body r with
  | case1 | case3 | case5 | case7 => cases hs
  | case2 cs =>
    simp only [Option.some.injEq, Prod.mk.injEq, Subtype.mk.injEq] at hs
    obtain ⟨rfl, rfl⟩ := hs
    exact ⟨rfl, bodyOut_quote q⟩
  | case4 d more body' r' h' hs' hne ih =>
    simp only [Option.some.injEq, Prod.mk.injEq, Subtype.mk.injEq] at hs
    obtain ⟨rfl, rfl⟩ := hs
    obtain ⟨rfl, hloc⟩ := ih hs'
    refine ⟨rfl, fun rest => ?_⟩
    rw [List.cons_append, List.cons_append, bodyOut_backslash hq, hloc]
    rfl
  | case6 c more hcq hcb body' r' h' hs' ih =>
    simp only [Option.some.injEq, Prod.mk.injEq, Subtype.mk.injEq] at hs
    obtain ⟨rfl, rfl⟩ := hs
    obtain ⟨rfl, hloc⟩ := ih hs'
    refine ⟨rfl, fun rest => ?_⟩
    rw [List.cons_append, bodyOut_plain hcq hcb, hloc]
    rfl

theorem lexeme_quoted {q : Char} (hq : q = '\'' ∨ q = '"') {body : List Char}
    (hloc : ∀ rest, bodyOut (stringBody q (body ++ q :: rest)) = some (body, rest)) :
    Lexeme (q :: (body ++ [q])) (.str (String.ofList body)) := by
  obtain ⟨hw, hb, -⟩ := quote_ascii hq
  refine ⟨q, body ++ [q], rfl, hb, fun rest _ pos => ?_⟩
  rw [token_quote hq, List.append_assoc, List.singleton_append]
  unfold quoted
  have e := hloc rest
  rcases hs : stringBody q (body ++ q :: rest) with _ | ⟨b, r, h⟩
  · rw [hs] at e
    cases e
  · rw [hs] at e
    simp only [bodyOut, Option.map_some, Option.some.injEq, Prod.mk.injEq] at e
    obtain ⟨rfl, rfl⟩ := e
    simp [stepOut, Except.map, hw]

/-! ### What one step reads -/

theorem quoted_lexeme {q : Char} (hq : q = '\'' ∨ q = '"') {more r : List Char} {pos w : Nat}
    {t : Token} {hr : r.length ≤ more.length} (h : quoted q more pos = .ok (t, w, ⟨r, hr⟩)) :
    ∃ body, more = body ++ r ∧ w = width (q :: body) ∧ Lexeme (q :: body) t := by
  obtain ⟨hw, -, hq'⟩ := quote_ascii hq
  unfold quoted at h
  split at h
  · rename_i body r' h' hs
    obtain ⟨rfl, rfl, rfl⟩ := step_ok_inj h
    obtain ⟨rfl, hloc⟩ := stringBody_local hq' hs
    exact ⟨body ++ [q], by simp, by simp [hw], lexeme_quoted hq hloc⟩
  · cases h

theorem word_lexeme {c : Char} (hc : isIdStart c = true) {more r : List Char} {w : Nat}
    {t : Token} {hr : r.length ≤ more.length} (h : word c more = .ok (t, w, ⟨r, hr⟩)) :
    ∃ body, more = body ++ r ∧ w = width (c :: body) ∧ Lexeme (c :: body) t := by
  unfold word at h
  split at h
  rename_i ds r' h' hs
  obtain ⟨rfl, rfl, rfl⟩ := step_ok_inj h
  obtain ⟨hmore, hds, -⟩ := spanWhile_eq hs
  exact ⟨ds, hmore, rfl, lexeme_word hc hds⟩

theorem number_lexeme {c : Char} (hc : c.isDigit = true) {more r : List Char} {pos w : Nat}
    {t : Token} {hr : r.length ≤ more.length} (h : number c more pos = .ok (t, w, ⟨r, hr⟩)) :
    ∃ body, more = body ++ r ∧ w = width (c :: body) ∧ Lexeme (c :: body) t := by
  unfold number at h
  split at h
  rename_i ds r0 h0 hs
  obtain ⟨hmore, hds, -⟩ := spanWhile_eq hs
  have hw := width_integer hc hds
  -- the digits are an integer unless a point and a digit follow them
  split at h
  · rename_i d more' _
    split at h
    · rename_i hd
      split at h
      rename_i fs r' h' hs'
      obtain ⟨rfl, rfl, rfl⟩ := step_ok_inj h
      obtain ⟨hmore', hfs, -⟩ := spanWhile_eq hs'
      refine ⟨ds ++ '.' :: d :: fs, by simp [hmore, hmore'], ?_, lexeme_decimal hc hds hd hfs⟩
      rw [← List.cons_append, width_decimal hc hds hd hfs]
    · dsimp only at h
      split at h
      · obtain ⟨rfl, rfl, rfl⟩ := step_ok_inj h
        exact ⟨ds, hmore, hw.symm, lexeme_integer hc hds ‹_›⟩
      · cases h
  · dsimp only at h
    split at h
    · obtain ⟨rfl, rfl, rfl⟩ := step_ok_inj h
      exact ⟨ds, hmore, hw.symm, lexeme_integer hc hds ‹_›⟩
    · cases h

theorem token_lexeme {c : Char} {more r : List Char} {pos w : Nat} {t : Token}
    {hr : r.length ≤ more.length} (hc : isBlank c = false)
    (h : token c more pos = .ok (t, w, ⟨r, hr⟩)) :
    ∃ body, more = body ++ r ∧ w = width (c :: body) ∧ Lexeme (c :: body) t := by
  have hout : stepOut (token c more pos) = .ok (t, w, r) := by rw [h]; rfl
  rcases token_cases c more pos with ⟨t', ht, e⟩ | ⟨t', ht, -, e⟩ | ⟨d, r', t', ht, rfl, e⟩ |
      ⟨hq, e⟩ | ⟨d, r', ds, r'', rfl, rfl, hd, hs, e⟩ | ⟨hd, e⟩ | ⟨-, hi, e⟩ | ⟨-, -, e⟩
  -- punctuation, whatever follows it
  · rw [e] at h
    obtain ⟨rfl, rfl, rfl⟩ := step_ok_inj h
    have hw : c.utf8Size = 1 := (by decide : ∀ x ∈ puncts ++ arithPuncts, x.1.utf8Size = 1) _ ht
    exact ⟨[], rfl, by simp [width, hw], lexeme_single hc hw fun rest _ pos => e rest pos⟩
  -- `!`, `<` and `>` without `=`: a blank is no `=` either
  · rw [e] at h
    obtain ⟨rfl, rfl, rfl⟩ := step_ok_inj h
    have hw : c.utf8Size = 1 := (by decide : ∀ x ∈ loneOps, x.1.utf8Size = 1) _ ht
    exact ⟨[], rfl, by simp [width, hw], lexeme_single hc hw fun _ hr pos =>
      token_lone ht (hr.not_head (by decide)) pos⟩
  -- two-character operators and the brace of a map
  · rw [e] at hout
    simp only [Except.ok.injEq, Prod.mk.injEq] at hout
    obtain ⟨rfl, rfl, rfl⟩ := hout
    have hw : c.utf8Size = 1 ∧ d.utf8Size = 1 :=
      (by decide : ∀ x ∈ pairOps, x.1.utf8Size = 1 ∧ x.2.1.utf8Size = 1) _ ht
    exact ⟨[d], rfl, by simp [width, hw.1, hw.2], lexeme_pair hc hw e⟩
  · rw [e] at h
    exact quoted_lexeme hq h
  · -- `#` and a name
    rw [e] at hout
    simp only [Except.ok.injEq, Prod.mk.injEq] at hout
    obtain ⟨rfl, rfl, rfl⟩ := hout
    obtain ⟨hmore, hds, -⟩ := spanWhile_eq hs
    refine ⟨d :: ds, congrArg (d :: ·) hmore, ?_, lexeme_var hd hds⟩
    have hw : '#'.utf8Size = 1 := rfl
    simp only [width_eq_utf8Len, String.utf8Len_cons, hw]
    omega
  · rw [e] at h
    exact number_lexeme hd h
  · rw [e] at h
    exact word_lexeme hi h
  · rw [e] at h
    cases h

/-! ### The tiling of a scanned text -/

/-- `cs`, whose first character stands at byte `pos`, is blanks and the lexemes of the tokens `ts`
one after another, each token spanning the bytes of its lexeme. -/
inductive Tiles : List Char → Nat → List (Spanned Token) → Prop
  | blank {bs : List Char} {pos : Nat} : (∀ b ∈ bs, isBlank b = true) → Tiles bs pos []
  | lexeme {bs lex rest : List Char} {pos : Nat} {t : Token} {ts : List (Spanned Token)} :
      (∀ b ∈ bs, isBlank b = true) → Lexeme lex t → Tiles rest (pos + width bs + width lex) ts →
      Tiles (bs ++ lex ++ rest) pos (⟨t, pos + width bs, pos + width bs + width lex⟩ :: ts)

theorem scanFrom_tiles {cs : List Char} {pos : Nat} {acc out : List (Spanned Token)}
    (h : scanFrom cs pos acc = .ok out) : ∃ ts, out = acc.reverse ++ ts ∧ Tiles cs pos ts := by
  fun_induction scanFrom cs pos acc with
  | case1 cs pos acc blank hlen hspan =>
    cases h
    obtain ⟨hcs, hblank, -⟩ := spanWhile_eq hspan
    refine ⟨[], by simp, ?_⟩
    rw [hcs, List.append_nil]
    exact .blank hblank
  | case2 => cases h
  | case3 cs pos acc blank c more hlen hspan start t w r hr htok hlt ih =>
    obtain ⟨ts, rfl, htiles⟩ := ih h
    obtain ⟨hcs, hblank, hc⟩ := spanWhile_eq hspan
    obtain ⟨body, rfl, rfl, hlex⟩ := token_lexeme (hc c rfl) htok
    refine ⟨⟨t, start, start + width (c :: body)⟩ :: ts, by simp, ?_⟩
    rw [hcs, ← List.cons_append, ← List.append_assoc]
    exact .lexeme hblank hlex htiles

theorem append_eq_append_cons {α : Type} {xs ys pre post : List α} {c : α}
    (h : xs ++ ys = pre ++ c :: post) :
    (∃ mid, xs = pre ++ c :: mid) ∨ ∃ mid, pre = xs ++ mid ∧ ys = mid ++ c :: post := by
  rcases List.append_eq_append_iff.mp h with ⟨as, rfl, hys⟩ | ⟨bs, rfl, hcp⟩
  · exact .inr ⟨as, rfl, hys⟩
  · cases bs with
    | nil => exact .inr ⟨[], by simp, by simpa using hcp.symm⟩
    | cons d bs =>
      simp only [List.cons_append, List.cons.injEq] at hcp
      obtain ⟨rfl, rfl⟩ := hcp
      exact .inl ⟨bs, rfl⟩

namespace Tiles

variable {cs : List Char} {pos : Nat} {ts : List (Spanned Token)}

theorem mem (h : Tiles cs pos ts) {x : Spanned Token} (hx : x ∈ ts) :
    ∃ pre lex post, cs = pre ++ lex ++ post ∧ Lexeme lex x.value ∧
      x.start = pos + width pre ∧ x.stop = x.start + width lex := by
  induction h with
  | blank => cases hx
  | @lexeme bs lex rest pos t ts hbs hlex hrest ih =>
    rcases List.mem_cons.mp hx with rfl | hx
    · exact ⟨bs, lex, rest, rfl, hlex, rfl, rfl⟩
    · obtain ⟨pre, lex', post, rfl, hl, hs, he⟩ := ih hx
      refine ⟨bs ++ lex ++ pre, lex', post, by simp, hl, ?_, he⟩
      rw [hs]
      simp only [width_eq_utf8Len, String.utf8Len_append]
      omega

theorem sorted (h : Tiles cs pos ts) : ts.Pairwise (fun a b => a.stop ≤ b.start) := by
  induction h with
  | blank => exact List.Pairwise.nil
  | @lexeme bs lex rest pos t ts hbs hlex hrest ih =>
    refine List.Pairwise.cons (fun x hx => ?_) ih
    obtain ⟨pre, -, -, -, -, hs, -⟩ := hrest.mem hx
    dsimp only
    omega

theorem blank_of_uncovered (h : Tiles cs pos ts) {pre post : List Char} {c : Char}
    (hcs : cs = pre ++ c :: post)
    (hout : ∀ x ∈ ts, pos + width pre < x.start ∨ x.stop ≤ pos + width pre) :
    isBlank c = true := by
  induction h generalizing pre with
  | blank hbs => exact hbs c (by simp [hcs])
  | @lexeme bs lex rest pos t ts hbs hlex hrest ih =>
    -- `c` stands among the blanks, in the first lexeme, or after it
    have hfirst := hout _ List.mem_cons_self
    dsimp only at hfirst
    rw [List.append_assoc] at hcs
    rcases append_eq_append_cons hcs with ⟨mid, hbs'⟩ | ⟨mid, hpre, hmid⟩
    · exact hbs c (by simp [hbs'])
    · rcases append_eq_append_cons hmid with ⟨mid', hlex'⟩ | ⟨mid', hmid', hrest'⟩
      · -- the first token's span holds `c`
        have := c.utf8Size_pos
        rw [hpre, hlex'] at hfirst
        simp only [width_eq_utf8Len, String.utf8Len_append, String.utf8Len_cons] at hfirst
        omega
      · refine ih hrest' fun x hx => ?_
        have hx' := hout x (List.mem_cons_of_mem _ hx)
        rw [hpre, hmid'] at hx'
        simp only [width_eq_utf8Len, String.utf8Len_append] at hx' ⊢
        omega

end Tiles

/-! ### Spans as byte ranges of the text -/

theorem extract_width {s : String} {pre mid post : List Char} (h : s.toList = pre ++ mid ++ post) :
    String.Pos.Raw.extract s ⟨width pre⟩ ⟨width pre + width mid⟩ = String.ofList mid := by
  rw [← String.ofList_toList (s := s), h, width_eq_utf8Len, width_eq_utf8Len]
  exact String.extract_of_valid pre mid post

theorem isValid_width {s : String} {pre post : List Char} (h : s.toList = pre ++ post) :
    String.Pos.Raw.IsValid s ⟨width pre⟩ := by
  rw [String.Pos.Raw.isValid_iff_exists_append]
  refine ⟨String.ofList pre, String.ofList post, ?_, ?_⟩
  · rw [← String.ofList_toList (s := s), h, String.ofList_append]
  · simp [String.rawEndPos, String.utf8ByteSize_ofList]

theorem reads_joined {xs : List (Spanned Token)} {f : Spanned Token → List Char}
    (h : ∀ x ∈ xs, Lexeme (f x) x.value) :
    Reads ([' '].intercalate (xs.map f)) (xs.map (·.value)) [] := by
  induction xs with
  | nil => exact Reads.nil []
  | cons x xs ih =>
    have hx := h x List.mem_cons_self
    have ih := ih fun y hy => h y (List.mem_cons_of_mem x hy)
    cases xs with
    | nil => simpa using hx.reads ends_nil
    | cons y ys =>
      rw [List.map_cons, List.map_cons, List.intercalate_cons_cons, List.append_assoc]
      exact (hx.reads (ends_space _)).append (Reads.blank rfl ih)

theorem Reads.scan_ok {cs : List Char} {vs : List Token} (h : Reads cs vs []) :
    ∃ us, scan (String.ofList cs) = .ok us ∧ us.map (·.value) = vs := by
  obtain ⟨pos, new, hv, e⟩ := h 0 []
  refine ⟨new, ?_, hv⟩
  rw [scan, String.toList_ofList, ← List.append_nil cs, e, Parser.scanFrom_nil]
  simp

section Slices

variable {s : String} {ts : List (Spanned Token)} {x : Spanned Token}

theorem Tiles.lexeme_slice (h : Tiles s.toList 0 ts) (hx : x ∈ ts) :
    Lexeme (String.Pos.Raw.extract s ⟨x.start⟩ ⟨x.stop⟩).toList x.value ∧
      x.stop - x.start = width (String.Pos.Raw.extract s ⟨x.start⟩ ⟨x.stop⟩).toList := by
  obtain ⟨pre, lex, post, hs, hlex, hstart, hstop⟩ := h.mem hx
  rw [Nat.zero_add] at hstart
  rw [hstop, hstart, extract_width hs, String.toList_ofList]
  exact ⟨hlex, by omega⟩

theorem Tiles.span_valid (h : Tiles s.toList 0 ts) (hx : x ∈ ts) :
    x.start < x.stop ∧ x.stop ≤ s.utf8ByteSize ∧ String.Pos.Raw.IsValid s ⟨x.start⟩ ∧
      String.Pos.Raw.IsValid s ⟨x.stop⟩ := by
  obtain ⟨pre, lex, post, hs, hlex, hstart, hstop⟩ := h.mem hx
  rw [Nat.zero_add] at hstart
  have hsize : s.utf8ByteSize = width pre + width lex + width post := by
    rw [← String.utf8Len_toList, hs]
    simp [Nat.add_assoc]
  have hpos := hlex.width_pos
  refine ⟨by omega, by omega, ?_, ?_⟩
  · rw [hstart]
    exact isValid_width (by rw [hs, List.append_assoc])
  · have hw : width (pre ++ lex) = width pre + width lex := by simp
    rw [hstop, hstart, ← hw]
    exact isValid_width hs

end Slices

/-- Where the tokens of a text stand. -/
theorem scan_token_spans {s : String} {ts : List (Spanned Token)} (h : scan s = .ok ts) :
    (∀ x ∈ ts, x.start < x.stop ∧ x.stop ≤ s.utf8ByteSize ∧
      String.Pos.Raw.IsValid s ⟨x.start⟩ ∧ String.Pos.Raw.IsValid s ⟨x.stop⟩ ∧
      scan (String.Pos.Raw.extract s ⟨x.start⟩ ⟨x.stop⟩) = .ok [⟨x.value, 0, x.stop - x.start⟩]) ∧
    ts.Pairwise (fun a b => a.stop ≤ b.start) ∧
    (∀ pre c post, s.toList = pre ++ c :: post →
      (∀ x ∈ ts, String.utf8Len pre < x.start ∨ x.stop ≤ String.utf8Len pre) →
      isBlank c = true) ∧
    ∃ us, scan (" ".intercalate (ts.map fun x => String.Pos.Raw.extract s ⟨x.start⟩ ⟨x.stop⟩)) =
        .ok us ∧ us.map (·.value) = ts.map (·.value) := by
  obtain ⟨ts', hts, htiles⟩ := scanFrom_tiles h
  rw [List.reverse_nil, List.nil_append] at hts
  subst hts
  refine ⟨fun x hx => ?_, htiles.sorted, fun pre c post hs hout => ?_, ?_⟩
  · obtain ⟨hlt, hle, hb, he⟩ := htiles.span_valid hx
    obtain ⟨hlex, hw⟩ := htiles.lexeme_slice hx
    refine ⟨hlt, hle, hb, he, ?_⟩
    rw [hw, ← hlex.scan_alone, String.ofList_toList]
  · exact htiles.blank_of_uncovered hs fun x hx => by simpa using hout x hx
  · have hr := reads_joined (f := fun x => (String.Pos.Raw.extract s ⟨x.start⟩ ⟨x.stop⟩).toList)
      fun x hx => (htiles.lexeme_slice hx).1
    obtain ⟨us, hus, hv⟩ := hr.scan_ok
    refine ⟨us, ?_, hv⟩
    rw [← hus, ← String.ofList_toList (s := " ".intercalate _), String.toList_intercalate,
      List.map_map]
    rfl

theorem scan_token_spans_quoted :
    scan "#x >= \"é\"" = .ok [⟨.var "x", 0, 2⟩, ⟨.greaterEq, 3, 5⟩, ⟨.str "é", 6, 10⟩] ∧
    (∀ x ∈ ([⟨.var "x", 0, 2⟩, ⟨.greaterEq, 3, 5⟩, ⟨.str "é", 6, 10⟩] : List (Spanned Token)),
      x.start < x.stop ∧ x.stop ≤ "#x >= \"é\"".utf8ByteSize ∧
      String.Pos.Raw.IsValid "#x >= \"é\"" ⟨x.start⟩ ∧ String.Pos.Raw.IsValid "#x >= \"é\"" ⟨x.stop⟩ ∧
      scan (String.Pos.Raw.extract "#x >= \"é\"" ⟨x.start⟩ ⟨x.stop⟩) =
        .ok [⟨x.value, 0, x.stop - x.start⟩]) ∧
    ([⟨.var "x", 0, 2⟩, ⟨.greaterEq, 3, 5⟩, ⟨.str "é", 6, 10⟩] : List (Spanned Token)).Pairwise
      (fun a b => a.stop ≤ b.start) ∧
    (∀ pre c post, "#x >= \"é\"".toList = pre ++ c :: post →
      (∀ x ∈ ([⟨.var "x", 0, 2⟩, ⟨.greaterEq, 3, 5⟩, ⟨.str "é", 6, 10⟩] : List (Spanned Token)),
        String.utf8Len pre < x.start ∨ x.stop ≤ String.utf8Len pre) →
      isBlank c = true) ∧
    ∃ us, scan (" ".intercalate
        (([⟨.var "x", 0, 2⟩, ⟨.greaterEq, 3, 5⟩, ⟨.str "é", 6, 10⟩] : List (Spanned Token)).map
          fun x => String.Pos.Raw.extract "#x >= \"é\"" ⟨x.start⟩ ⟨x.stop⟩)) = .ok us ∧
      us.map (·.value) =
        ([⟨.var "x", 0, 2⟩, ⟨.greaterEq, 3, 5⟩, ⟨.str "é", 6, 10⟩] : List (Spanned Token)).map
          (·.value) := by
  have h : scan "#x >= \"é\"" = .ok [⟨.var "x", 0, 2⟩, ⟨.greaterEq, 3, 5⟩, ⟨.str "é", 6, 10⟩] := by
    rw [scan, show "#x >= \"é\"".toList = ['#', 'x', ' ', '>', '=', ' ', '"', 'é', '"'] from rfl,
      scanFrom_token (by decide) (by rfl), scanFrom_blank (by decide),
      scanFrom_token (by decide) (by rfl), scanFrom_blank (by decide),
      scanFrom_token (by decide) (by rfl), Parser.scanFrom_nil]
    rfl
  exact ⟨h, scan_token_spans h⟩

end TypedExpr.Lexer
