import Mathlib
import TypedExpr.Binary64.Bits
import TypedExpr.Text.Ident
import TypedExpr.Text.Blank

/-! Identifier characters against digits and blanks: a digit continues an identifier but starts
none, and no character that starts or continues an identifier is blank. -/

-- `Binary64.Bits` is imported for its choice of the core power on `Nat` and `Int`, which the
-- statements about number literals in the modules after this one are written with.

namespace TypedExpr.Text

theorem inRangesFrom_sound {rs : Array (Nat × Nat)} {n lo hi : Nat}
    (h : inRangesFrom rs n lo hi = true) : ∃ r ∈ rs.toList, r.1 ≤ n ∧ n ≤ r.2 := by
  fun_induction inRangesFrom rs n lo hi with
  | case1 => simp at h
  | case2 _ _ _ _ _ _ _ _ ih => exact ih h
  | case3 _ _ _ _ _ _ _ _ _ ih => exact ih h
  | case4 lo hi _ mid a b hmid hlo hhi =>
    refine ⟨(a, b), Array.mem_toList_iff.mpr (Array.mem_of_getElem? hmid), ?_⟩
    simp at hlo hhi
    omega
  | case5 => simp at h

def blankIntervals : List (Nat × Nat) :=
  [(0x09, 0x0D), (0x20, 0x20), (0x85, 0x85), (0xA0, 0xA0), (0x1680, 0x1680), (0x2000, 0x200A),
   (0x2028, 0x2029), (0x202F, 0x202F), (0x205F, 0x205F), (0x3000, 0x3000)]

theorem xidStart_blank_disjoint :
    xidStartRanges.toList.all (fun r => blankIntervals.all fun b => r.2 < b.1 || b.2 < r.1) = true := by
  decide +kernel

theorem xidContinue_blank_disjoint :
    xidContinueRanges.toList.all (fun r => blankIntervals.all fun b => r.2 < b.1 || b.2 < r.1) = true := by
  decide +kernel

theorem isBlank_of_inRanges {rs : Array (Nat × Nat)}
    (hd : rs.toList.all (fun r => blankIntervals.all fun b => r.2 < b.1 || b.2 < r.1) = true)
    {c : Char} (h : inRanges rs c.toNat = true) : isBlank c = false := by
  obtain ⟨r, hr, hlo, hhi⟩ := inRangesFrom_sound h
  have hr := List.all_eq_true.mp hd r hr
  simp only [blankIntervals, List.all_cons, List.all_nil, Bool.and_true, Bool.and_eq_true,
    Bool.or_eq_true, decide_eq_true_eq] at hr
  cases hb : isBlank c
  · rfl
  · simp only [isBlank, Bool.or_eq_true, Bool.and_eq_true, decide_eq_true_eq, beq_iff_eq] at hb
    omega

theorem isIdContinue_of_isDigit {c : Char} (h : c.isDigit = true) : isIdContinue c = true := by
  have h' := Char.isDigit_iff_toNat.mp h
  have hc : c.toNat < 0x80 := by simp at h'; omega
  simp [isIdContinue, isXidContinue, hc, Char.isAlphanum, h]

theorem isDigit_of_isIdStart {c : Char} (h : isIdStart c = true) : c.isDigit = false := by
  cases hd : c.isDigit
  · rfl
  · have h' := Char.isDigit_iff_toNat.mp hd
    have hc : c.toNat < 0x80 := by simp at h'; omega
    simp only [isIdStart, isXidStart, hc, if_true, Bool.or_eq_true, beq_iff_eq, Char.isAlpha,
      Char.isUpper, Char.isLower, decide_eq_true_eq, Bool.and_eq_true, ge_iff_le,
      UInt32.le_iff_toNat_le, Char.toNat_val] at h
    simp at h'
    -- `_` and `$` are no digits, and the ASCII letters lie outside `0`..`9`
    rcases h with (rfl | rfl) | (h | h)
    · simp at h'
    · simp at h'
    · simp at h
      omega
    · simp at h
      omega

theorem isBlank_of_isIdStart {c : Char} (h : isIdStart c = true) : isBlank c = false := by
  by_cases ha : c.toNat < 0x80
  · -- an ASCII blank is a control character or the space, neither a letter nor `_` or `$`
    cases hb : isBlank c
    · rfl
    · simp only [isBlank, Bool.or_eq_true, Bool.and_eq_true, decide_eq_true_eq, beq_iff_eq] at hb
      simp only [isIdStart, isXidStart, ha, if_true, Bool.or_eq_true, beq_iff_eq, Char.isAlpha,
        Char.isUpper, Char.isLower, decide_eq_true_eq, Bool.and_eq_true, ge_iff_le,
        UInt32.le_iff_toNat_le, Char.toNat_val] at h
      rcases h with (rfl | rfl) | (h | h)
      · simp at hb
      · simp at hb
      · simp at h
        omega
      · simp at h
        omega
  · apply isBlank_of_inRanges xidStart_blank_disjoint
    simp only [isIdStart, isXidStart, ha, if_false, Bool.or_eq_true, beq_iff_eq] at h
    rcases h with (h | h) | h
    · subst h; simp at ha
    · subst h; simp at ha
    · exact h

theorem isBlank_of_isIdContinue {c : Char} (h : isIdContinue c = true) : isBlank c = false := by
  by_cases ha : c.toNat < 0x80
  · -- an ASCII blank is a control character or the space, neither a letter, a digit, `_` nor `$`
    simp only [isIdContinue, isXidContinue, ha, if_true, Bool.or_eq_true, beq_iff_eq,
      Char.isAlphanum, Char.isAlpha, Char.isUpper, Char.isLower, Char.isDigit, decide_eq_true_eq,
      Bool.and_eq_true, ge_iff_le, UInt32.le_iff_toNat_le, Char.toNat_val] at h
    simp only [isBlank, Bool.or_eq_false_iff, Bool.and_eq_false_iff, decide_eq_false_iff_not,
      beq_eq_false_iff_ne]
    rcases h with rfl | ((h | h) | h) | rfl
    · decide
    · simp at h
      omega
    · simp at h
      omega
    · simp at h
      omega
    · decide
  · apply isBlank_of_inRanges xidContinue_blank_disjoint
    simpa [isIdContinue, isXidContinue, ha, show c ≠ '$' from fun e => ha (by simp [e])] using h

end TypedExpr.Text
