/-! Blank characters: the Unicode property White_Space. These separate tokens and are removed by
`trim` from both ends of a text. -/

namespace TypedExpr.Text

/-- White_Space: tab to carriage return, space, next line, no-break space, ogham space mark, the
spaces U+2000 to U+200A, line and paragraph separators, narrow no-break space, medium mathematical
space and ideographic space. -/
def isBlank (c : Char) : Bool :=
  let n := c.toNat
  (0x09 ≤ n && n ≤ 0x0D) || n == 0x20 || n == 0x85 || n == 0xA0 || n == 0x1680 ||
  (0x2000 ≤ n && n ≤ 0x200A) || n == 0x2028 || n == 0x2029 || n == 0x202F || n == 0x205F ||
  n == 0x3000

theorem isBlank_of_isWhitespace (c : Char) (h : c.isWhitespace = true) : isBlank c = true := by
  simp only [Char.isWhitespace, Bool.or_eq_true, decide_eq_true_eq] at h
  simp only [isBlank, Bool.or_eq_true, Bool.and_eq_true, decide_eq_true_eq, beq_iff_eq]
  rcases h with ((h | h) | h) | h <;> simp_all

theorem length_dropWhile_le {α : Type} (p : α → Bool) :
    ∀ l : List α, (l.dropWhile p).length ≤ l.length
  | [] => Nat.le_refl _
  | c :: cs => by
    rw [List.dropWhile_cons]
    split
    · exact Nat.le_succ_of_le (length_dropWhile_le p cs)
    · exact Nat.le_refl _

def trim (cs : List Char) : List Char :=
  ((cs.dropWhile Text.isBlank).reverse.dropWhile Text.isBlank).reverse

theorem length_trim_le (cs : List Char) : (trim cs).length ≤ cs.length := by
  unfold trim
  have h1 := length_dropWhile_le Text.isBlank cs
  have h2 := length_dropWhile_le Text.isBlank (cs.dropWhile Text.isBlank).reverse
  simp only [List.length_reverse] at h2 ⊢
  omega

end TypedExpr.Text
