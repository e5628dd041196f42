import TypedExpr.Proofs.Syntax.ScanErrors

/-! Where the errors of reading a text point. Each error names a byte offset of the text. -/

namespace TypedExpr.Parser

/-! ### Escapes -/

theorem unescape_shift (front : List Char) {more : List Char} {offset i j : Nat} {e : ParseError}
    (hj : j = i + Lexer.width front)
    (h : ∃ pre post seq, more = pre ++ '\\' :: post ∧
      e = .invalidEscape seq (offset + j + Lexer.width pre)) :
    ∃ pre post seq, front ++ more = pre ++ '\\' :: post ∧
      e = .invalidEscape seq (offset + i + Lexer.width pre) := by
  obtain ⟨pre, post, seq, rfl, rfl⟩ := h
  refine ⟨front ++ pre, post, seq, by simp, ?_⟩
  rw [hj]
  congr 1
  simp only [Lexer.width_eq_utf8Len, String.utf8Len_append]
  omega

theorem backslash_utf8Size : ('\\' : Char).utf8Size = 1 := rfl

theorem unescapeFrom_error {offset : Nat} {acc cs : List Char} {i : Nat} {e : ParseError}
    (h : unescapeFrom offset acc cs i = .error e) :
    ∃ pre post seq, cs = pre ++ '\\' :: post ∧
      e = .invalidEscape seq (offset + i + Lexer.width pre) := by
  fun_induction unescapeFrom offset acc cs i
  case case1 => cases h
  case case2 c more _ ih => exact unescape_shift [c] (by simp) (ih h)
  case case10 =>
    -- a backslash, a u and four hexadecimal digits
    rename_i more _ _ _ _ _ _ _ _ _ _ _ ih
    obtain rfl := not_not.mp ‹¬_ ≠ '\\'›
    rw [← List.take_append_drop 4 more]
    refine unescape_shift ('\\' :: 'u' :: more.take 4) ?_ (ih h)
    simp +zetaDelta only [Lexer.width_eq_utf8Len, String.utf8Len_cons, backslash_utf8Size]
    omega
  -- a lone backslash, or one that starts no escape: the error is at it
  case case3 | case11 | case12 | case13 =>
    cases h
    obtain rfl := not_not.mp ‹¬_ ≠ '\\'›
    exact ⟨[], _, _, rfl, rfl⟩
  -- the other escapes take two characters
  all_goals
    rename_i ih
    obtain rfl := not_not.mp ‹¬_ ≠ '\\'›
    refine unescape_shift [_, _] ?_ (ih h)
    simp +zetaDelta only [Lexer.width_eq_utf8Len, String.utf8Len_cons, String.utf8Len_nil]
    have := backslash_utf8Size
    omega

/-! ### Where a parser error points -/

section Placement

variable (len : Nat) (all : Tokens)

/-- Where an error of reading the tokens `all` of a text of `len` bytes may point: the end of the
text, or a token of `all` of the kind the error is about. -/
inductive Placed : ParseError → Prop
  | atEnd : Placed (.unexpectedEnd len)
  | deepAtEnd (limit : Nat) : Placed (.tooDeep limit len)
  | deep (limit : Nat) {x : Spanned Token} : x ∈ all → Placed (.tooDeep limit x.start)
  | unexpected (found : String) {x : Spanned Token} : x ∈ all →
      Placed (.unexpectedToken found x.start)
  | expected (what found : String) {x : Spanned Token} : x ∈ all →
      Placed (.expectedToken what found x.start)
  | literal (kind text : String) {x : Spanned Token} : x ∈ all → x.value.isNumber = true →
      Placed (.invalidLiteral kind text x.start)
  | escape {x : Spanned Token} {raw : String} {e : ParseError} : x ∈ all → x.value = .str raw →
      unescape (x.start + 1) raw = .error e → Placed e

def Fits : Except ParseError (Expr × Tokens) → Prop
  | .error e => Placed len all e
  | .ok (_, r) => r <:+ all

def Located (g : Goal) (ts : Tokens) (k : Nat) : Prop :=
  ts <:+ all → Fits len all (out (run len g ts k))

variable {len all}

theorem placed_posOf {ts : Tokens} (hts : ts <:+ all) (limit : Nat) :
    Placed len all (.tooDeep limit (posOf len ts)) := by
  cases ts with
  | nil => exact .deepAtEnd limit
  | cons t rest => exact .deep limit (hts.subset List.mem_cons_self)

theorem placed_expected {ts : Tokens} (hts : ts <:+ all) (what : String) :
    Placed len all (expected len what ts) := by
  cases ts with
  | nil => exact .atEnd
  | cons t rest => exact .expected what _ (hts.subset List.mem_cons_self)

theorem placed_atom {t : Spanned Token} (ht : t ∈ all) {e : ParseError}
    (h : atom t = some (.error e)) : Placed len all e := by
  unfold atom at h
  split at h
  · split at h
    · cases h
    · cases h
      exact .literal _ _ ht (by simp [Token.isNumber, *])
  · split at h
    · cases h
    · cases h
      exact .literal _ _ ht (by simp [Token.isNumber, *])
  · rename_i raw hraw
    cases hu : unescape (t.start + 1) raw with
    | error e' =>
      rw [hu] at h
      cases h
      exact .escape ht hraw hu
    | ok v =>
      rw [hu] at h
      cases h
  all_goals cases h

theorem Located.peel {g : Goal} {ts : Tokens} {k : Nat} (hl : Located len all g ts k)
    (hts : ts <:+ all) {F : Expr × Tokens → Except ParseError (Expr × Tokens)}
    (hF : ∀ p : Parsed ts, p.rest <:+ all → Fits len all (F (p.tree, p.rest))) :
    Fits len all ((out (run len g ts k)).bind F) := by
  have h := hl hts
  rcases ho : out (run len g ts k) with e | ⟨a, r⟩
  · rw [ho] at h
    exact h
  · obtain ⟨p, -, rfl, rfl⟩ := out_eq_ok ho
    rw [ho] at h
    exact hF p h

theorem fits_expect {tok : Token} {ts : Tokens} (hts : ts <:+ all)
    {G : Tokens → Except ParseError (Expr × Tokens)}
    (hG : ∀ r : { r : Tokens // r.length < ts.length }, r.val <:+ all → Fits len all (G r.val)) :
    Fits len all (((expect len tok ts).map (·.val)).bind G) := by
  cases he : expect len tok ts with
  | error e =>
    show Placed len all e
    unfold expect at he
    split at he
    · cases he
      exact .atEnd
    · split at he
      · cases he
      · cases he
        exact .expected _ _ (hts.subset List.mem_cons_self)
  | ok r => exact hG r ((expect_suffix he).trans hts)

theorem fits_map {x : Except ParseError (Expr × Tokens)} (hx : Fits len all x) (f : Expr → Expr) :
    Fits len all (x.map fun p => (f p.1, p.2)) := by
  rcases x with e | ⟨a, r⟩ <;> exact hx

theorem located_of_out {g : Goal} {ts : Tokens} {k : Nat} {o : Except ParseError (Expr × Tokens)}
    (h : out (run len g ts k) = o) (ho : ts <:+ all → Fits len all o) : Located len all g ts k :=
  fun hts => h ▸ ho hts

theorem located_items (G : List Expr → Goal) (build : List Expr → Expr) {closer : Token}
    (err : Tokens → ParseError)
    (hG : ∀ acc ts k, out (run len (G acc) ts k) =
      (out (run len (.expr 1) ts k)).bind fun p =>
        match after? .comma p.2 with
        | some r => out (run len (G (p.1 :: acc)) r k)
        | none =>
          match after? closer p.2 with
          | some r => .ok (build (p.1 :: acc).reverse, r)
          | none => .error (err p.2))
    (herr : ∀ ts, ts <:+ all → Placed len all (err ts))
    {ts : Tokens} {k : Nat} {acc : List Expr} (hx : Located len all (.expr 1) ts k)
    (hnext : ∀ (p : Parsed ts) (r : { r : Tokens // r.length < p.rest.length }),
      Located len all (G (p.tree :: acc)) r.val k) :
    Located len all (G acc) ts k := by
  intro hts
  rw [hG]
  refine hx.peel hts fun p hp => ?_
  dsimp only
  split
  · -- a comma: the next item
    rename_i r hr
    obtain ⟨r', hr', rfl⟩ := after?_some hr
    exact hnext p r' ((tokenAt_suffix hr').trans hp)
  · split
    · exact (after?_suffix ‹_›).trans hp
    · exact herr p.rest hp

theorem located_mapEntries {ts : Tokens} {k : Nat} {acc : List (Expr × Expr)}
    (hkey : Located len all (.expr 1) ts k)
    (hval : ∀ (key : Parsed ts) (r1 : { r : Tokens // r.length < key.rest.length }),
      Located len all (.expr 1) r1.val k)
    (hnext : ∀ (key : Parsed ts) (r1 : { r : Tokens // r.length < key.rest.length })
      (value : Parsed r1.val) (r : { r : Tokens // r.length < value.rest.length }),
      Located len all (.mapEntries ((key.tree, value.tree) :: acc)) r.val k) :
    Located len all (.mapEntries acc) ts k := by
  intro hts
  rw [out_mapEntries]
  refine hkey.peel hts fun key hk => fits_expect hk fun r1 hr1 => (hval key r1).peel hr1
    fun value hv => ?_
  dsimp only
  split
  · -- a comma: the next entry
    rename_i r hr
    obtain ⟨r', hr', rfl⟩ := after?_some hr
    exact hnext key r1 value r' ((tokenAt_suffix hr').trans hv)
  · split
    · exact (after?_suffix ‹_›).trans hv
    · exact placed_expected hv _

theorem located (g : Goal) (ts : Tokens) (k : Nat) : Located len all g ts k := by
  induction g, ts, k using run.induct with
  -- expressions and the climb over binary operators
  | case1 _ k min hu hc =>
    intro hts
    rw [out_expr]
    exact hu.peel hts fun p hp => hc p hp
  | case2 _ k left min hop => exact located_of_out (out_climb_none len left min k hop) id
  | case3 _ k left min _ _ _ hop _ hp =>
    exact located_of_out (out_climb_low len left min k hop hp) id
  | case4 _ k left min _ _ _ hop _ hp hk =>
    exact located_of_out (out_climb_deep len left min k hop (by omega) hk) fun hts =>
      placed_posOf hts _
  | case5 _ k left min _ _ hop hp hk hr hyes hno hc =>
    intro hts
    rw [out_climb_cond len left min k hr (by omega) (by omega)]
    exact hyes.peel ((operatorAt_suffix hr).trans hts) fun yes hy => fits_expect hy fun r2 hr2 =>
      (hno yes r2).peel hr2 fun no hn => hc yes r2 no hn
  | case6 _ k left min _ _ hop hp hk o hr hright hc =>
    intro hts
    rw [out_climb_binary len left min k hr (by omega) (by omega)]
    exact hright.peel ((operatorAt_suffix hr).trans hts) fun p hp' => hc p hp'
  -- prefix operators and operands
  | case7 ts k hk =>
    intro hts
    rw [out_unary, if_pos hk]
    exact placed_posOf hts _
  | case8 ts k hk ho =>
    intro hts
    rw [out_unary, if_neg hk]
    exact ho hts
  | case9 _ k hu hp hs =>
    intro hts
    rw [out_operand_primary k hu]
    exact hp.peel hts fun p hp' => hs p hp'
  | case10 _ k _ _ _ hm hu =>
    exact located_of_out (out_operand_min k hu hm) fun hts =>
      ((minMagnitudeAt_suffix hm).trans (unaryAt_suffix hu)).trans hts
  | case11 _ k op r hu hm' hm hx =>
    intro hts
    have hmin : op = .neg → minMagnitudeAt r.val = none := fun hn =>
      Option.eq_none_iff_forall_ne_some.mpr fun r' => hm r' hn
    rw [out_operand_op k hu hmin]
    exact fits_map (hx ((unaryAt_suffix hu).trans hts)) _
  -- primaries
  | case12 ts k hu =>
    rw [uncons_none hu]
    exact located_of_out (out_primary_end k) fun _ => .atEnd
  | case13 _ k t rest _ hu _ ha =>
    rw [uncons_some hu]
    exact located_of_out (out_primary_atom t rest k ha) fun hts =>
      (List.suffix_cons t rest).trans hts
  | case14 _ k t rest _ hu _ ha =>
    rw [uncons_some hu]
    exact located_of_out (out_primary_atomError t rest k ha) fun hts =>
      placed_atom (hts.subset List.mem_cons_self) ha
  | case15 _ k t rest _ hu ha _ hi hn =>
    rw [uncons_some hu]
    intro hts
    rw [out_primary_name t rest k ha hi]
    exact hn ((List.suffix_cons t rest).trans hts)
  | case16 _ k t rest _ hu ha _ hl hx =>
    rw [uncons_some hu]
    intro hts
    rw [out_primary_group t rest k ha hl]
    exact hx.peel ((List.suffix_cons t rest).trans hts) fun p hp => fits_expect hp fun r hr => hr
  | case17 _ k t rest _ hu ha _ _ hl r hr =>
    rw [uncons_some hu]
    intro hts
    rw [out_primary_list t rest k ha hl, show after? .rbrace rest = some r.val by simp [after?, hr]]
    exact (tokenAt_suffix hr).trans ((List.suffix_cons t rest).trans hts)
  | case18 _ k t rest _ hu ha _ _ hl hr hx =>
    rw [uncons_some hu]
    intro hts
    rw [out_primary_list t rest k ha hl, show after? .rbrace rest = none by simp [after?, hr]]
    exact hx ((List.suffix_cons t rest).trans hts)
  | case19 _ k t rest _ hu ha _ _ _ hm r hr =>
    rw [uncons_some hu]
    intro hts
    rw [out_primary_map t rest k ha hm, show after? .rbrace rest = some r.val by simp [after?, hr]]
    exact (tokenAt_suffix hr).trans ((List.suffix_cons t rest).trans hts)
  | case20 _ k t rest _ hu ha _ _ _ hm hr hx =>
    rw [uncons_some hu]
    intro hts
    rw [out_primary_map t rest k ha hm, show after? .rbrace rest = none by simp [after?, hr]]
    exact hx ((List.suffix_cons t rest).trans hts)
  | case21 _ k t rest _ hu ha hi h1 h2 h3 =>
    rw [uncons_some hu]
    exact located_of_out (out_primary_other t rest k ha hi h1 h2 h3) fun hts =>
      .unexpected _ (hts.subset List.mem_cons_self)
  -- sequences
  | case22 _ _ _ hx hnext =>
    exact located_items .listItems .list _ (fun acc ts k => out_listItems ts k acc)
      (fun ts hts => placed_expected hts _) hx hnext
  | case23 _ _ _ hkey hval hnext => exact located_mapEntries hkey hval hnext
  | case24 ts k base name hlp =>
    exact located_of_out (out_named_prop ts k base name (by simp [after?, hlp])) id
  | case25 ts k base name r hlp _ r' hrp =>
    intro hts
    rw [out_named_call ts k base name (r := r.val) (by simp [after?, hlp]),
      show after? .rparen r.val = some r'.val by simp [after?, hrp]]
    exact (tokenAt_suffix hrp).trans ((tokenAt_suffix hlp).trans hts)
  | case26 ts k base name r hlp _ hrp hx =>
    intro hts
    rw [out_named_call ts k base name (r := r.val) (by simp [after?, hlp]),
      show after? .rparen r.val = none by simp [after?, hrp]]
    exact hx ((tokenAt_suffix hlp).trans hts)
  | case27 _ _ base name _ hx hnext =>
    exact located_items (.arguments base name) (.call base name) _
      (fun acc ts k => out_arguments ts k base name acc) (fun ts hts => placed_expected hts _)
      hx hnext
  -- postfix chains
  | case28 ts k left hu =>
    rw [uncons_none hu]
    exact located_of_out (out_suffixes_end k left) id
  | case29 _ k left t rest _ hu hd hk =>
    rw [uncons_some hu]
    intro hts
    rw [out_suffixes_member t rest k left hd, if_pos hk]
    exact .deep _ (hts.subset List.mem_cons_self)
  | case30 _ k left t rest _ hu hd hk hm hs =>
    rw [uncons_some hu]
    intro hts
    rw [out_suffixes_member t rest k left hd, if_neg hk]
    exact hm.peel ((List.suffix_cons t rest).trans hts) fun p hp => hs p hp
  | case31 _ k left t rest _ hu _ hb hk =>
    rw [uncons_some hu]
    intro hts
    rw [out_suffixes_index t rest k left hb, if_pos hk]
    exact .deep _ (hts.subset List.mem_cons_self)
  | case32 _ k left t rest _ hu _ hb hk hi hs =>
    rw [uncons_some hu]
    intro hts
    rw [out_suffixes_index t rest k left hb, if_neg hk]
    exact hi.peel ((List.suffix_cons t rest).trans hts) fun i hi' => fits_expect hi' fun r hr =>
      hs i r hr
  | case33 _ k left t rest _ hu h1 h2 =>
    rw [uncons_some hu]
    exact located_of_out (out_suffixes_stop t rest k left h1 h2) id
  -- members after a dot
  | case34 ts k base hu =>
    rw [uncons_none hu]
    exact located_of_out (out_member_end k base) fun _ => .atEnd
  | case35 _ k base t rest _ hu hb selecting r hq _ hx =>
    rw [uncons_some hu]
    intro hts
    rw [out_member_brace t rest k base hb, hq]
    have hr : r.val <:+ all :=
      (by simpa [hq] using questionAt_suffix rest : r.val <:+ rest).trans
        ((List.suffix_cons t rest).trans hts)
    exact hx.peel hr fun p hp => fits_expect hp fun r2 hr2 => hr2
  | case36 _ k base t rest _ hu hb name hm hn =>
    rw [uncons_some hu]
    intro hts
    rw [out_member_name t rest k base hb hm]
    exact hn ((List.suffix_cons t rest).trans hts)
  | case37 _ k base t rest _ hu hb hm =>
    rw [uncons_some hu]
    exact located_of_out (out_member_bad t rest k base hb hm) fun hts =>
      .expected _ _ (hts.subset List.mem_cons_self)

end Placement

theorem unescape_error {offset : Nat} {raw : String} {e : ParseError}
    (h : unescape offset raw = .error e) : ∃ seq p, e = .invalidEscape seq p := by
  obtain ⟨-, -, seq, -, rfl⟩ := unescapeFrom_error h
  exact ⟨seq, _, rfl⟩

theorem parse_error_site {s : String} {e : ParseError} (h : parse s = .error e) :
    (∃ c more p, Lexer.Reaches s.toList 0 (c :: more) p ∧ Lexer.token c more p = .error e) ∨
      ∃ ts, Lexer.scan s = .ok ts ∧ Placed s.utf8ByteSize ts e := by
  cases hs : Lexer.scan s with
  | error e' =>
    simp only [parse, hs, Except.error.injEq] at h
    subst h
    exact .inl (Lexer.scanFrom_error hs)
  | ok ts =>
    refine .inr ⟨ts, rfl, ?_⟩
    rw [parse_eq hs] at h
    have hl : Located s.utf8ByteSize ts (.expr 1) ts 0 := located _ _ _
    have hf := hl (List.suffix_refl ts)
    rcases ho : out (run s.utf8ByteSize (.expr 1) ts 0) with e' | ⟨a, r⟩
    · rw [ho] at h hf
      cases h
      exact hf
    · rw [ho] at h hf
      -- tokens left over after the expression
      simp only [Except.bind] at h
      split at h
      · cases h
      · rename_i t rest
        cases h
        exact .unexpected _ (hf.subset List.mem_cons_self)

/-! ### Reading the offsets in the text -/

section Text

variable {s : String}

theorem get_of_toList {pre post : List Char} {c : Char} (h : s.toList = pre ++ c :: post) :
    String.Pos.Raw.get s ⟨String.utf8Len pre⟩ = c := by
  have e := String.get_of_valid pre (c :: post)
  rwa [← h, String.ofList_toList] at e

theorem reaches_toList {c : Char} {more : List Char} {p : Nat}
    (h : Lexer.Reaches s.toList 0 (c :: more) p) :
    ∃ pre, s.toList = pre ++ c :: more ∧ String.utf8Len pre = p := by
  obtain ⟨pre, hs, rfl⟩ := h.split
  exact ⟨pre, hs, by simp⟩

theorem token_error_position {c : Char} {more : List Char} {p : Nat} {e : ParseError}
    (h : Lexer.token c more p = .error e) : e.position = p := by
  rcases Lexer.token_error h with rfl | ⟨-, rfl, -⟩ | ⟨-, _, _, rfl⟩ <;> rfl

theorem escape_toList {ts : Tokens} (hs : Lexer.scan s = .ok ts) {x : Spanned Token}
    (hx : x ∈ ts) {raw : String} (hv : x.value = .str raw) {e : ParseError}
    (hu : unescape (x.start + 1) raw = .error e) :
    ∃ seq pre post, e = .invalidEscape seq (String.utf8Len pre) ∧ s.toList = pre ++ '\\' :: post ∧
      x.start < String.utf8Len pre ∧ String.utf8Len pre < x.stop := by
  obtain ⟨c, more, r, hr, hreach, htok⟩ := Lexer.scan_reaches hs hx
  rw [hv] at htok
  obtain ⟨hq, rfl, hw⟩ := Lexer.token_str htok
  obtain ⟨pre, htext, hpre⟩ := reaches_toList hreach
  obtain ⟨rp, rq, seq, hraw, rfl⟩ := unescapeFrom_error hu
  have hc : c.utf8Size = 1 := (Lexer.quote_ascii hq).1
  have hlen : String.utf8Len raw.toList = String.utf8Len rp + 1 + String.utf8Len rq := by
    rw [hraw, String.utf8Len_append, String.utf8Len_cons, backslash_utf8Size]
    omega
  refine ⟨seq, pre ++ c :: rp, rq ++ c :: r, ?_, by simp [htext, hraw], ?_, ?_⟩
  · congr 1
    simp only [String.utf8Len_append, String.utf8Len_cons, hpre, hc, Lexer.width_eq_utf8Len]
    omega
  all_goals
    simp only [String.utf8Len_append, String.utf8Len_cons, Lexer.width_eq_utf8Len] at hw hlen ⊢
    omega

theorem parse_error_anchor {e : ParseError} (h : parse s = .error e) :
    ∃ pre post, s.toList = pre ++ post ∧ String.utf8Len pre = e.position ∧
      (post = [] → (∃ p, e = .unexpectedEnd p) ∨ ∃ l p, e = .tooDeep l p) := by
  rcases parse_error_site h with ⟨c, more, p, hreach, htok⟩ | ⟨ts, hs, hp⟩
  · obtain ⟨pre, htext, hpre⟩ := reaches_toList hreach
    exact ⟨pre, c :: more, htext, by rw [hpre, token_error_position htok], nofun⟩
  · cases hp with
    | atEnd => exact ⟨s.toList, [], by simp, String.utf8Len_toList s, fun _ => .inl ⟨_, rfl⟩⟩
    | deepAtEnd l =>
      exact ⟨s.toList, [], by simp, String.utf8Len_toList s, fun _ => .inr ⟨l, _, rfl⟩⟩
    | deep _ hx | unexpected _ hx | expected _ _ hx | literal _ _ hx _ =>
      -- a token of the text
      obtain ⟨c, more, -, -, hreach, -⟩ := Lexer.scan_reaches hs hx
      obtain ⟨pre, htext, hpre⟩ := reaches_toList hreach
      exact ⟨pre, c :: more, htext, hpre, nofun⟩
    | escape hx hv hu =>
      obtain ⟨seq, pre, post, rfl, htext, -, -⟩ := escape_toList hs hx hv hu
      exact ⟨pre, '\\' :: post, htext, rfl, nofun⟩

theorem parse_unexpectedEnd {p : Nat} (h : parse s = .error (.unexpectedEnd p)) :
    p = s.utf8ByteSize := by
  rcases parse_error_site h with ⟨c, more, q, -, htok⟩ | ⟨ts, -, hp⟩
  · rcases Lexer.token_error htok with h' | ⟨-, h', -⟩ | ⟨-, _, _, h'⟩ <;> cases h'
  · cases hp with
    | atEnd => rfl
    | escape _ _ hu =>
      obtain ⟨_, _, h'⟩ := unescape_error hu
      cases h'

theorem parse_unexpectedChar {c : Char} {p : Nat} (h : parse s = .error (.unexpectedChar c p)) :
    String.Pos.Raw.get s ⟨p⟩ = c := by
  rcases parse_error_site h with ⟨d, more, q, hreach, htok⟩ | ⟨ts, -, hp⟩
  · rcases Lexer.token_error htok with h' | ⟨-, h', -⟩ | ⟨-, _, _, h'⟩ <;> cases h'
    obtain ⟨pre, htext, hpre⟩ := reaches_toList hreach
    rw [← hpre]
    exact get_of_toList htext
  · cases hp with
    | escape _ _ hu =>
      obtain ⟨_, _, h'⟩ := unescape_error hu
      cases h'

theorem parse_unclosedString {p : Nat} (h : parse s = .error (.unclosedString p)) :
    ∃ q more, Lexer.Reaches s.toList 0 (q :: more) p ∧ (q = '\'' ∨ q = '"') ∧
      ¬∃ body rest, more = body ++ q :: rest ∧ Lexer.Content q body := by
  rcases parse_error_site h with ⟨c, more, q, hreach, htok⟩ | ⟨ts, -, hp⟩
  · rcases Lexer.token_error htok with h' | ⟨hq, h', hbody⟩ | ⟨-, _, _, h'⟩
    · cases h'
    · cases h'
      exact ⟨c, more, hreach, hq, Lexer.unclosed_of_stringBody (Lexer.quote_ascii hq).2.2 hbody⟩
    · cases h'
  · cases hp with
    | escape _ _ hu =>
      obtain ⟨_, _, h'⟩ := unescape_error hu
      cases h'

theorem parse_invalidEscape {seq : String} {p : Nat}
    (h : parse s = .error (.invalidEscape seq p)) :
    String.Pos.Raw.get s ⟨p⟩ = '\\' ∧ ∃ ts, Lexer.scan s = .ok ts ∧
      ∃ x ∈ ts, x.value.isQuoted = true ∧ x.start < p ∧ p < x.stop := by
  rcases parse_error_site h with ⟨c, more, q, -, htok⟩ | ⟨ts, hs, hp⟩
  · rcases Lexer.token_error htok with h' | ⟨-, h', -⟩ | ⟨-, _, _, h'⟩ <;> cases h'
  · cases hp with
    | escape hx hv hu =>
      obtain ⟨seq', pre, post, he, htext, hlo, hhi⟩ := escape_toList hs hx hv hu
      cases he
      exact ⟨get_of_toList htext, ts, hs, _, hx, by simp [hv, Token.isQuoted], hlo, hhi⟩

theorem parse_invalidLiteral {kind text : String} {p : Nat}
    (h : parse s = .error (.invalidLiteral kind text p)) :
    ∃ d more, Lexer.Reaches s.toList 0 (d :: more) p ∧ d.isDigit = true := by
  rcases parse_error_site h with ⟨c, more, q, hreach, htok⟩ | ⟨ts, hs, hp⟩
  · rcases Lexer.token_error htok with h' | ⟨-, h', -⟩ | ⟨hd, _, _, h'⟩
    · cases h'
    · cases h'
    · cases h'
      exact ⟨c, more, hreach, hd⟩
  · cases hp with
    | literal _ _ hx hn =>
      -- a number token, read where its first digit stands
      obtain ⟨c, more, r, hr, hreach, htok⟩ := Lexer.scan_reaches hs hx
      exact ⟨c, more, hreach, (Lexer.token_kind htok).2 hn⟩
    | escape _ _ hu =>
      obtain ⟨_, _, h'⟩ := unescape_error hu
      cases h'

theorem parse_error_at_token {e : ParseError} (h : parse s = .error e)
    (hk : e.kindName = "UnexpectedToken" ∨ e.kindName = "ExpectedToken" ∨
      e.kindName = "NestingTooDeep") (hlt : e.position < s.utf8ByteSize) :
    ∃ ts, Lexer.scan s = .ok ts ∧ ∃ x ∈ ts, x.start = e.position := by
  rcases parse_error_site h with ⟨c, more, q, -, htok⟩ | ⟨ts, hs, hp⟩
  · rcases Lexer.token_error htok with rfl | ⟨-, rfl, -⟩ | ⟨-, _, _, rfl⟩ <;>
      simp [ParseError.kindName] at hk
  · cases hp with
    | deep _ hx | unexpected _ hx | expected _ _ hx => exact ⟨ts, hs, _, hx, rfl⟩
    | deepAtEnd => exact absurd hlt (Nat.lt_irrefl _)
    | atEnd | literal => simp [ParseError.kindName] at hk
    | escape _ _ hu =>
      obtain ⟨_, _, rfl⟩ := unescape_error hu
      simp [ParseError.kindName] at hk

end Text

/-- Where every error of reading a text points. -/
theorem parse_error_position {s : String} {e : ParseError} (h : parse s = .error e) :
    e.position ≤ s.utf8ByteSize ∧ String.Pos.Raw.IsValid s ⟨e.position⟩ ∧
      (e.position = s.utf8ByteSize →
        e.kindName = "UnexpectedEof" ∨ e.kindName = "NestingTooDeep") ∧
      (∀ p, e = .unexpectedEnd p → p = s.utf8ByteSize) ∧
      (∀ c p, e = .unexpectedChar c p → String.Pos.Raw.get s ⟨p⟩ = c) ∧
      (∀ p, e = .unclosedString p → ∃ q more, Lexer.Reaches s.toList 0 (q :: more) p ∧
        (q = '\'' ∨ q = '"') ∧ ¬∃ body rest, more = body ++ q :: rest ∧ Lexer.Content q body) ∧
      (∀ seq p, e = .invalidEscape seq p → String.Pos.Raw.get s ⟨p⟩ = '\\' ∧
        ∃ ts, Lexer.scan s = .ok ts ∧ ∃ x ∈ ts, x.value.isQuoted = true ∧ x.start < p ∧ p < x.stop) ∧
      (e.kindName = "UnexpectedToken" ∨ e.kindName = "ExpectedToken" ∨
          (e.kindName = "NestingTooDeep" ∧ e.position < s.utf8ByteSize) →
        ∃ ts, Lexer.scan s = .ok ts ∧ ∃ x ∈ ts, x.start = e.position) ∧
      (∀ kind text p, e = .invalidLiteral kind text p →
        ∃ d more, Lexer.Reaches s.toList 0 (d :: more) p ∧ d.isDigit = true) := by
  obtain ⟨pre, post, htext, hpre, hend⟩ := parse_error_anchor h
  have hsize : s.utf8ByteSize = String.utf8Len pre + String.utf8Len post := by
    rw [← String.utf8Len_toList, htext, String.utf8Len_append]
  -- at the end of the text, nothing follows the offset
  have hlast : e.position = s.utf8ByteSize →
      e.kindName = "UnexpectedEof" ∨ e.kindName = "NestingTooDeep" := by
    intro heq
    have hpost : post = [] := String.utf8Len_eq_zero.mp (by omega)
    rcases hend hpost with ⟨p, rfl⟩ | ⟨l, p, rfl⟩ <;> simp [ParseError.kindName]
  refine ⟨by omega, ?_, hlast, fun p he => parse_unexpectedEnd (he ▸ h),
    fun c p he => parse_unexpectedChar (he ▸ h), fun p he => parse_unclosedString (he ▸ h),
    fun seq p he => parse_invalidEscape (he ▸ h), fun hk => ?_,
    fun kind text p he => parse_invalidLiteral (he ▸ h)⟩
  · rw [← hpre, ← Lexer.width_eq_utf8Len]
    exact Lexer.isValid_width htext
  · -- an unexpected or missing token is never at the end
    have hlt : e.position < s.utf8ByteSize := by
      rcases hk with hk | hk | ⟨-, hlt⟩
      case inr.inr => exact hlt
      all_goals
        refine Nat.lt_of_le_of_ne (by omega) fun heq => ?_
        rcases hlast heq with h' | h' <;> simp [hk] at h'
    exact parse_error_at_token h (hk.imp_right (Or.imp_right And.left)) hlt

theorem parse_error_position_lone_equals :
    parse "'é' = 1" = .error (.unexpectedChar '=' 5) ∧ String.Pos.Raw.get "'é' = 1" ⟨5⟩ = '=' := by
  have hs : Lexer.scan "'é' = 1" = .error (.unexpectedChar '=' 5) := by
    rw [Lexer.scan, show "'é' = 1".toList = ['\'', 'é', '\'', ' ', '=', ' ', '1'] from rfl,
      Lexer.scanFrom_token (by decide) (by rfl), Lexer.scanFrom_blank (by decide),
      scanFrom_tokenError (by decide) (by rfl)]
    rfl
  have h : parse "'é' = 1" = .error (.unexpectedChar '=' 5) := by
    simp only [parse, hs]
  exact ⟨h, (parse_error_position h).2.2.2.2.1 '=' 5 rfl⟩

end TypedExpr.Parser
