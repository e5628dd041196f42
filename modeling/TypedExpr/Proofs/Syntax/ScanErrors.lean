import TypedExpr.Proofs.Syntax.Spans

/-! Where the scanner stands when it reads a token, and where its errors point. The scanner comes to
a token at byte `p` of a text when it gets there skipping blanks and reading whole tokens
(`Lexer.Reaches`); the text before that point takes exactly `p` bytes. -/

namespace TypedExpr

/-- Whether a token is a string literal. -/
def Token.isQuoted : Token → Bool
  | .str _ => true
  | _ => false

def Token.isNumber : Token → Bool
  | .integer _ | .decimal _ => true
  | _ => false

namespace Lexer
open Text

/-! ### The scanner's way through a text -/

/-- Reading `cs` from byte `pos`, the scanner comes to a token that starts at byte `p`, where the
characters `rest` remain: on the way it skips blanks and reads whole tokens. -/
inductive Reaches : List Char → Nat → List Char → Nat → Prop
  | start {c : Char} {more : List Char} {pos : Nat} :
      isBlank c = false → Reaches (c :: more) pos (c :: more) pos
  | skip {c : Char} {cs rest : List Char} {pos p : Nat} :
      isBlank c = true → Reaches cs (pos + c.utf8Size) rest p → Reaches (c :: cs) pos rest p
  | read {c : Char} {more r rest : List Char} {pos w p : Nat} {t : Token}
      {hr : r.length ≤ more.length} :
      isBlank c = false → token c more pos = .ok (t, w, ⟨r, hr⟩) → Reaches r (pos + w) rest p →
      Reaches (c :: more) pos rest p

namespace Reaches

variable {cs rest : List Char} {pos p : Nat}

theorem split (h : Reaches cs pos rest p) : ∃ pre, cs = pre ++ rest ∧ p = pos + width pre := by
  induction h with
  | start => exact ⟨[], rfl, rfl⟩
  | @skip c cs rest pos p _ _ ih =>
    obtain ⟨pre, rfl, rfl⟩ := ih
    refine ⟨c :: pre, rfl, ?_⟩
    simp only [width_eq_utf8Len, String.utf8Len_cons]
    omega
  | @read c more r rest pos w p t hr hc ht _ ih =>
    -- the token takes its lexeme off the front
    obtain ⟨body, rfl, rfl, -⟩ := token_lexeme hc ht
    obtain ⟨pre, rfl, rfl⟩ := ih
    refine ⟨c :: body ++ pre, by simp, ?_⟩
    simp only [width_eq_utf8Len, String.utf8Len_cons, String.utf8Len_append, List.cons_append]
    omega

theorem blanks {bs : List Char} (hb : ∀ b ∈ bs, isBlank b = true)
    (h : Reaches cs (pos + width bs) rest p) : Reaches (bs ++ cs) pos rest p := by
  induction bs generalizing pos with
  | nil => simpa using h
  | cons b bs ih =>
    refine .skip (hb b List.mem_cons_self) (ih (fun x hx => hb x (List.mem_cons_of_mem b hx)) ?_)
    simpa [width_eq_utf8Len, String.utf8Len_cons, Nat.add_assoc, Nat.add_comm b.utf8Size] using h

end Reaches

theorem scanFrom_error {cs : List Char} {pos : Nat} {acc : List (Spanned Token)} {e : ParseError}
    (h : scanFrom cs pos acc = .error e) :
    ∃ c more p, Reaches cs pos (c :: more) p ∧ token c more p = .error e := by
  fun_induction scanFrom cs pos acc with
  | case1 => cases h
  | case2 cs pos acc blank c more hlen hspan start e' htok =>
    cases h
    obtain ⟨hcs, hblank, hc⟩ := spanWhile_eq hspan
    rw [hcs]
    exact ⟨c, more, _, .blanks hblank (.start (hc c rfl)), htok⟩
  | case3 cs pos acc blank c more hlen hspan start t w r hr htok hlt ih =>
    obtain ⟨c', more', p, hreach, htok'⟩ := ih h
    obtain ⟨hcs, hblank, hc⟩ := spanWhile_eq hspan
    rw [hcs]
    exact ⟨c', more', p, .blanks hblank (.read (hc c rfl) htok hreach), htok'⟩

theorem scanFrom_ok {cs : List Char} {pos : Nat} {acc out : List (Spanned Token)}
    (h : scanFrom cs pos acc = .ok out) {x : Spanned Token} (hx : x ∈ out) :
    x ∈ acc ∨ ∃ c more r hr, Reaches cs pos (c :: more) x.start ∧
      token c more x.start = .ok (x.value, x.stop - x.start, ⟨r, hr⟩) := by
  fun_induction scanFrom cs pos acc with
  | case1 =>
    cases h
    exact .inl (List.mem_reverse.mp hx)
  | case2 => cases h
  | case3 cs pos acc blank c more hlen hspan start t w r hr htok hlt ih =>
    obtain ⟨hcs, hblank, hc⟩ := spanWhile_eq hspan
    rw [hcs]
    rcases ih h with hx | ⟨c', more', r', hr', hreach, htok'⟩
    · rcases List.mem_cons.mp hx with rfl | hx
      · -- the token read here
        refine .inr ⟨c, more, r, hr, .blanks hblank (.start (hc c rfl)), ?_⟩
        simpa using htok
      · exact .inl hx
    · exact .inr ⟨c', more', r', hr', .blanks hblank (.read (hc c rfl) htok hreach), htok'⟩

theorem scan_reaches {s : String} {ts : List (Spanned Token)} (h : scan s = .ok ts)
    {x : Spanned Token} (hx : x ∈ ts) : ∃ c more r hr, Reaches s.toList 0 (c :: more) x.start ∧
      token c more x.start = .ok (x.value, x.stop - x.start, ⟨r, hr⟩) :=
  (scanFrom_ok h hx).resolve_left (List.not_mem_nil)

/-! ### What one token step gives -/

theorem number_cases (c : Char) (rest : List Char) (pos : Nat) :
    (∃ t w r, number c rest pos = .ok (t, w, r) ∧ t.isNumber = true ∧ t.isQuoted = false) ∨
      ∃ kind text, number c rest pos = .error (.invalidLiteral kind text pos) := by
  unfold number
  split
  split
  · -- a dot after the digits makes a decimal only when a digit follows it
    split
    · split
      exact .inl ⟨_, _, _, rfl, rfl, rfl⟩
    · dsimp only
      split
      · exact .inl ⟨_, _, _, rfl, rfl, rfl⟩
      · exact .inr ⟨_, _, rfl⟩
  · dsimp only
    split
    · exact .inl ⟨_, _, _, rfl, rfl, rfl⟩
    · exact .inr ⟨_, _, rfl⟩

theorem number_error {c : Char} {rest : List Char} {pos : Nat} {e : ParseError}
    (h : number c rest pos = .error e) : ∃ kind text, e = .invalidLiteral kind text pos := by
  rcases number_cases c rest pos with ⟨t, w, r, hok, -⟩ | ⟨kind, text, herr⟩
  · rw [hok] at h
    cases h
  · rw [herr] at h
    cases h
    exact ⟨kind, text, rfl⟩

theorem word_ok {c : Char} {rest : List Char} {e : ParseError} : word c rest ≠ .error e := by
  unfold word
  split
  exact fun h => by cases h

theorem token_error {c : Char} {more : List Char} {pos : Nat} {e : ParseError}
    (h : token c more pos = .error e) :
    e = .unexpectedChar c pos ∨
      ((c = '\'' ∨ c = '"') ∧ e = .unclosedString pos ∧ stringBody c more = none) ∨
      (c.isDigit = true ∧ ∃ kind text, e = .invalidLiteral kind text pos) := by
  have hout : stepOut (token c more pos) = .error e := by rw [h]; rfl
  rcases token_cases c more pos with ⟨t, -, ht⟩ | ⟨t, -, -, ht⟩ | ⟨d, r, t, -, rfl, ht⟩ |
      ⟨hq, ht⟩ | ⟨d, r, ds, r', -, -, -, -, ht⟩ | ⟨hd, ht⟩ | ⟨-, -, ht⟩ | ⟨-, -, ht⟩
  -- a token of one or two characters, or a variable, is always read
  · rw [ht] at h
    cases h
  · rw [ht] at h
    cases h
  · rw [ht] at hout
    cases hout
  · -- a quote that is never closed
    rw [ht] at h
    unfold quoted at h
    split at h
    · cases h
    · rename_i hs
      cases h
      exact .inr (.inl ⟨hq, rfl, hs⟩)
  · rw [ht] at hout
    cases hout
  · rw [ht] at h
    exact .inr (.inr ⟨hd, number_error h⟩)
  · rw [ht] at h
    exact absurd h word_ok
  · rw [ht] at h
    cases h
    exact .inl rfl

theorem number_kind {c : Char} {rest : List Char} {pos : Nat} {t : Token} {w : Nat}
    {r : { r : List Char // r.length ≤ rest.length }} (h : number c rest pos = .ok (t, w, r)) :
    t.isNumber = true ∧ t.isQuoted = false := by
  rcases number_cases c rest pos with ⟨t', w', r', hok, hk⟩ | ⟨kind, text, herr⟩
  · rw [hok] at h
    cases h
    exact hk
  · rw [herr] at h
    cases h

theorem word_kind {c : Char} {rest : List Char} {t : Token} {w : Nat}
    {r : { r : List Char // r.length ≤ rest.length }} (h : word c rest = .ok (t, w, r)) :
    t.isQuoted = false ∧ t.isNumber = false := by
  unfold word at h
  split at h
  next ds r' hr' heq =>
  cases h
  have hk : ∀ e ∈ Token.keywords, e.2.isQuoted = false ∧ e.2.isNumber = false := by decide
  cases hkw : Token.keyword? (String.ofList (c :: ds)) with
  | none => exact ⟨rfl, rfl⟩
  | some tok => exact hk _ (Parser.keyword_mem hkw)

theorem token_kind {c : Char} {more r : List Char} {pos w : Nat} {t : Token}
    {hr : r.length ≤ more.length} (h : token c more pos = .ok (t, w, ⟨r, hr⟩)) :
    (t.isQuoted = true → c = '\'' ∨ c = '"') ∧ (t.isNumber = true → c.isDigit = true) := by
  have hout : stepOut (token c more pos) = .ok (t, w, r) := by rw [h]; rfl
  rcases token_cases c more pos with ⟨t', ht, e⟩ | ⟨t', ht, -, e⟩ | ⟨d, r', t', ht, rfl, e⟩ |
      ⟨hq, e⟩ | ⟨d, r', ds, r'', -, -, -, -, e⟩ | ⟨hd, e⟩ | ⟨-, hi, e⟩ | ⟨-, -, e⟩
  -- punctuation and operators are no literals
  · rw [e] at h
    obtain ⟨rfl, -, -⟩ := step_ok_inj h
    have hk := (by decide :
      ∀ x ∈ puncts ++ arithPuncts, x.2.isQuoted = false ∧ x.2.isNumber = false) _ ht
    simp [hk.1, hk.2]
  · rw [e] at h
    obtain ⟨rfl, -, -⟩ := step_ok_inj h
    have hk := (by decide : ∀ x ∈ loneOps, x.2.isQuoted = false ∧ x.2.isNumber = false) _ ht
    simp [hk.1, hk.2]
  · rw [e] at hout
    simp only [Except.ok.injEq, Prod.mk.injEq] at hout
    obtain ⟨rfl, -, -⟩ := hout
    have hk := (by decide : ∀ x ∈ pairOps, x.2.2.isQuoted = false ∧ x.2.2.isNumber = false) _ ht
    simp [hk.1, hk.2]
  · -- a string literal
    rw [e] at h
    unfold quoted at h
    split at h
    · obtain ⟨rfl, -, -⟩ := step_ok_inj h
      simp [Token.isNumber, hq]
    · cases h
  · rw [e] at hout
    simp only [Except.ok.injEq, Prod.mk.injEq] at hout
    obtain ⟨rfl, -, -⟩ := hout
    simp [Token.isQuoted, Token.isNumber]
  · rw [e] at h
    obtain ⟨-, hq⟩ := number_kind h
    simp [hq, hd]
  · rw [e] at h
    obtain ⟨hq, hn⟩ := word_kind h
    simp [hq, hn]
  · rw [e] at h
    cases h

theorem token_str {c : Char} {more r : List Char} {pos w : Nat} {raw : String}
    {hr : r.length ≤ more.length} (h : token c more pos = .ok (.str raw, w, ⟨r, hr⟩)) :
    (c = '\'' ∨ c = '"') ∧ more = raw.toList ++ c :: r ∧ w = width raw.toList + 2 := by
  have hq := (token_kind h).1 rfl
  rw [token_quote hq] at h
  unfold quoted at h
  split at h
  · rename_i body r' h' hs
    obtain ⟨hraw, rfl, rfl⟩ := step_ok_inj h
    obtain ⟨rfl, -⟩ := stringBody_local (quote_ascii hq).2.2 hs
    obtain rfl := Token.str.inj hraw
    simp [hq]
  · cases h

/-! ### Quotes that are never closed -/

/-- The text between the quotes `q` of a string literal: no bare quote, and every backslash takes
the character after it. -/
inductive Content (q : Char) : List Char → Prop
  | nil : Content q []
  | plain {c : Char} {cs : List Char} : c ≠ q → c ≠ '\\' → Content q cs → Content q (c :: cs)
  | escape {d : Char} {cs : List Char} : Content q cs → Content q ('\\' :: d :: cs)

theorem Content.closes {q : Char} (hq : q ≠ '\\') {body : List Char} (h : Content q body)
    (rest : List Char) : bodyOut (stringBody q (body ++ q :: rest)) = some (body, rest) := by
  induction h with
  | nil => exact bodyOut_quote q rest
  | plain hcq hcb _ ih =>
    rw [List.cons_append, bodyOut_plain hcq hcb, ih]
    rfl
  | escape _ ih =>
    rw [List.cons_append, List.cons_append, bodyOut_backslash hq, ih]
    rfl

theorem unclosed_of_stringBody {q : Char} (hq : q ≠ '\\') {cs : List Char}
    (h : stringBody q cs = none) : ¬∃ body rest, cs = body ++ q :: rest ∧ Content q body := by
  rintro ⟨body, rest, rfl, hc⟩
  have e := hc.closes hq rest
  rw [h] at e
  cases e

end Lexer

end TypedExpr
