import TypedExpr.Decimal.Read

/-! Decimal text read back. The digits of a decimal's text are its mantissa, padded with zeros so
that a digit stands before the point; reading the text of a decimal without a sign gives back the
same mantissa and scale. -/

namespace TypedExpr.Decimal

def digits (d : Decimal) : List Char :=
  List.replicate (d.scale + 1 - (Nat.toDigits 10 d.mant).length) '0' ++ Nat.toDigits 10 d.mant

theorem isDigit_of_mem_digits {d : Decimal} {c : Char} (h : c ∈ d.digits) : c.isDigit = true := by
  simp only [digits, List.mem_append, List.mem_replicate] at h
  rcases h with ⟨-, rfl⟩ | h
  · rfl
  · exact Nat.isDigit_of_mem_toDigits (by decide) (by decide) h

theorem scale_lt_length_digits (d : Decimal) : d.scale < d.digits.length := by
  simp only [digits, List.length_append, List.length_replicate]
  have := Nat.length_toDigits_pos (b := 10) (n := d.mant)
  omega

theorem digits_ne_nil (d : Decimal) : d.digits ≠ [] := by
  have := scale_lt_length_digits d
  intro h; simp [h] at this

theorem ofDigitChars_digits (d : Decimal) : Nat.ofDigitChars 10 d.digits 0 = d.mant := by
  simp [digits, Nat.ofDigitChars_append]

theorem render_toList {d : Decimal} (hn : d.neg = false) :
    d.render.toList = if d.scale = 0 then d.digits
      else d.digits.take (d.digits.length - d.scale) ++ '.' :: d.digits.drop (d.digits.length - d.scale) := by
  simp only [render, hn, digits, Bool.false_eq_true, ↓reduceIte]
  split <;> simp

theorem render_toList_point {d : Decimal} (hn : d.neg = false) (hs : d.scale ≠ 0) :
    ∃ ip fp, d.render.toList = ip ++ '.' :: fp ∧ ip ≠ [] ∧ fp.length = d.scale ∧ ip ++ fp = d.digits := by
  have hw := scale_lt_length_digits d
  refine ⟨_, _, by rw [render_toList hn, if_neg hs], ?_, ?_, List.take_append_drop _ _⟩
  · rw [← List.length_pos_iff, List.length_take]; omega
  · rw [List.length_drop]; omega

theorem head?_render {d : Decimal} (hn : d.neg = false) : d.render.toList.head? = d.digits.head? := by
  have hw := scale_lt_length_digits d
  rw [render_toList hn]
  split
  · rfl
  · obtain ⟨c, cs, e⟩ := List.exists_cons_of_ne_nil (digits_ne_nil d)
    rw [List.head?_append, List.head?_take, if_neg (by omega), e]
    rfl

theorem le_ofDigitChars (l : List Char) (m : Nat) : m ≤ Nat.ofDigitChars 10 l m := by
  rw [Nat.ofDigitChars_eq_ofDigitChars_zero]
  exact Nat.le_add_right_of_le (Nat.le_mul_of_pos_left m (Nat.pow_pos (by decide)))

theorem readBody_whole (neg : Bool) (fp : List Char) :
    ∀ (ds : List Char) (m : Nat) (dg : Bool), (∀ c ∈ ds, c.isDigit = true) →
      Nat.ofDigitChars 10 ds m < 2 ^ 96 →
      readBody neg ⟨m, 0, false, dg⟩ (ds ++ '.' :: fp) =
        readBody neg ⟨Nat.ofDigitChars 10 ds m, 0, false, dg || !ds.isEmpty⟩ ('.' :: fp)
  | [], m, dg, _, _ => by simp
  | c :: cs, m, dg, hd, hv => by
    have hc := hd c (by simp)
    have hcs : ∀ c ∈ cs, c.isDigit = true := fun c h => hd c (by simp [h])
    rw [Nat.ofDigitChars_cons] at hv ⊢
    have hnext := le_ofDigitChars cs (10 * m + (c.toNat - '0'.toNat))
    rw [List.cons_append, readBody]
    simp only [hc, if_true, Bool.false_eq_true, if_false, Bool.false_and]
    rw [if_neg (by omega)]
    split
    · simp at *
    · rw [Nat.mul_comm m 10, readBody_whole neg fp cs _ true hcs hv]
      simp

theorem readBody_tail (neg : Bool) :
    ∀ (ds : List Char) (m s : Nat) (p dg : Bool), ds ≠ [] → (∀ c ∈ ds, c.isDigit = true) →
      Nat.ofDigitChars 10 ds m < 2 ^ 96 → (p = true → s + ds.length ≤ maxScale) →
      readBody neg ⟨m, s, p, dg⟩ ds =
        make? neg (Nat.ofDigitChars 10 ds m) (if p then s + ds.length else s)
  | [], _, _, _, _, h, _, _, _ => absurd rfl h
  | c :: cs, m, s, p, dg, _, hd, hv, hs => by
    have hc := hd c (by simp)
    have hcs : ∀ c ∈ cs, c.isDigit = true := fun c h => hd c (by simp [h])
    rw [Nat.ofDigitChars_cons] at hv ⊢
    have hnext := le_ofDigitChars cs (10 * m + (c.toNat - '0'.toNat))
    rw [readBody]
    simp only [hc, if_true]
    rw [if_neg (by omega), Nat.mul_comm m 10]
    cases cs with
    | nil => cases p <;> simp
    | cons c' cs' =>
      simp only
      have hround : (p && decide ((if p = true then s + 1 else s) ≥ maxScale)) = false := by
        cases p <;> simp_all [maxScale]; omega
      rw [hround, if_neg (by simp)]
      rw [readBody_tail neg (c' :: cs') _ _ p true (by simp) hcs hv (fun hp => by simp_all; omega)]
      cases p
      · simp
      · simp only [if_true, List.length_cons]
        congr 1
        omega

theorem readBody_point (neg : Bool) (m s : Nat) (dg : Bool) (rest : List Char) :
    readBody neg ⟨m, s, false, dg⟩ ('.' :: rest) = readBody neg ⟨m, s, true, dg⟩ rest := by
  rw [readBody]
  rfl

theorem read?_of_isDigit {s : String} {c : Char} {cs : List Char} (hs : s.toList = c :: cs)
    (hc : c.isDigit = true) : read? s = readBody false ⟨0, 0, false, false⟩ (c :: cs) := by
  rw [read?, hs]
  split
  · rename_i h; cases h; simp at hc
  · rename_i h; cases h; simp at hc
  · rfl

theorem make?_self {d : Decimal} (hn : d.neg = false) : make? false d.mant d.scale = some d := by
  obtain ⟨neg, mant, scale, hm, hs⟩ := d
  simp only at hn
  subst hn
  rw [make?, dif_pos ⟨hm, hs⟩]
  rfl

theorem read?_render {d : Decimal} (hn : d.neg = false) : read? d.render = some d := by
  have hw := scale_lt_length_digits d
  have hdig : ∀ c ∈ d.digits, c.isDigit = true := fun c h => isDigit_of_mem_digits h
  have hval := ofDigitChars_digits d
  by_cases hs : d.scale = 0
  · obtain ⟨c, cs, hcs⟩ := List.exists_cons_of_ne_nil (digits_ne_nil d)
    have hr : d.render.toList = c :: cs := by rw [render_toList hn, if_pos hs, hcs]
    rw [read?_of_isDigit hr (hdig c (by simp [hcs])), ← hcs,
      readBody_tail false _ _ _ _ _ (digits_ne_nil d) hdig (by rw [hval]; exact d.mant_lt) (by simp)]
    simpa [hval, hs] using make?_self hn
  · obtain ⟨ip, fp, hr, hip, hlen, hsplit⟩ := render_toList_point hn hs
    obtain ⟨c, cs, rfl⟩ := List.exists_cons_of_ne_nil hip
    have hdig' : ∀ x ∈ c :: cs ++ fp, x.isDigit = true := by rw [hsplit]; exact hdig
    have hval' : Nat.ofDigitChars 10 fp (Nat.ofDigitChars 10 (c :: cs) 0) = d.mant := by
      rw [← Nat.ofDigitChars_append, hsplit, hval]
    have hm := d.mant_lt
    have hle := le_ofDigitChars fp (Nat.ofDigitChars 10 (c :: cs) 0)
    rw [List.cons_append] at hr
    rw [read?_of_isDigit hr (hdig' c (by simp)), ← List.cons_append,
      readBody_whole false _ _ _ _ (fun x h => hdig' x (List.mem_append_left _ h)) (by omega),
      readBody_point, readBody_tail false _ _ _ _ _ (by rw [← List.length_pos_iff]; omega)
        (fun x h => hdig' x (List.mem_append_right _ h)) (by omega)
        (fun _ => by rw [hlen, Nat.zero_add]; exact d.scale_le)]
    simpa [hval', hlen] using make?_self hn

end TypedExpr.Decimal
