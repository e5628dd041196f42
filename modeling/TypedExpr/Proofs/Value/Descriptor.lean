import Mathlib.Data.List.TakeWhile
import TypedExpr.Value.Ty
import TypedExpr.Binary64.Bits

/-! Reading the text of a type descriptor gives the descriptor back (`Ty.read_render`). -/

namespace TypedExpr

namespace Text

theorem trim_of_blank_free {cs : List Char} (h : ∀ c ∈ cs, isBlank c = false) : trim cs = cs := by
  have hfront : cs.dropWhile isBlank = cs :=
    List.dropWhile_eq_self_iff.mpr fun hl => by simp [h _ (List.getElem_mem hl)]
  have hback : cs.reverse.dropWhile isBlank = cs.reverse :=
    List.dropWhile_eq_self_iff.mpr fun hl => by
      have := h _ (List.mem_reverse.mp (List.getElem_mem hl))
      simp_all
  simp [trim, hfront, hback]

end Text

namespace Ty

open Text

theorem readChars_split {cs head inner : List Char} {h : inner.length < (trim cs).length}
    (hs : splitContainer (trim cs) = some (some (head, ⟨inner, h⟩))) :
    readChars cs = (readChars inner).bind (container? (String.ofList (trim head))) := by
  rw [readChars]
  split
  next head' inner' h' heq =>
    rw [hs] at heq
    simp only [Option.some.injEq, Prod.mk.injEq, Subtype.mk.injEq] at heq
    obtain ⟨rfl, rfl⟩ := heq
    cases readChars inner <;> rfl
  next heq => rw [hs] at heq; cases heq
  next heq => rw [hs] at heq; cases heq

theorem readChars_name {cs : List Char} (hs : splitContainer (trim cs) = none) :
    readChars cs = ofName? (String.ofList (trim cs)) := by
  rw [readChars]
  split
  next heq => rw [hs] at heq; cases heq
  next heq => rw [hs] at heq; cases heq
  next => rfl

theorem splitContainer_wrap {xs head inner : List Char} (hh : ∀ c ∈ head, c ≠ '<')
    (hx : xs = head ++ '<' :: inner ++ ['>']) :
    ∃ h, splitContainer xs = some (some (head, ⟨inner, h⟩)) := by
  subst hx
  have hfirst : (head ++ '<' :: inner ++ ['>']).findIdx? (· == '<') = some head.length := by
    have : ∀ c ∈ head, (c == '<') = false := fun c hc => by simpa using hh c hc
    simp [List.findIdx?_append, List.findIdx?_eq_none_iff.mpr this, List.findIdx?_cons]
  refine ⟨by simp; omega, ?_⟩
  unfold splitContainer
  rw [hfirst]
  simp

theorem readChars_wrap {xs head inner : List Char} (hh : ∀ c ∈ head, c ≠ '<')
    (hx : xs = head ++ '<' :: inner ++ ['>']) (ht : trim xs = xs) :
    readChars xs = (readChars inner).bind (container? (String.ofList (trim head))) := by
  obtain ⟨h, hs⟩ := splitContainer_wrap hh (ht.trans hx)
  exact readChars_split hs

theorem render_blank_free (t : Ty) : ∀ c ∈ t.render.toList, isBlank c = false := by
  induction t with
  | list e ih | set e ih | map e ih =>
    simp only [render, String.toList_append, List.mem_append]
    rintro c ((hc | hc) | hc)
    · revert c hc; simp [isBlank]
    · exact ih c hc
    · revert c hc; simp [isBlank]
  | _ => simp [render, isBlank]

theorem readChars_render (t : Ty) : readChars t.render.toList = some t := by
  have ht := trim_of_blank_free (render_blank_free t)
  induction t with
  | list e ih =>
    have hx : (list e).render.toList = "List".toList ++ '<' :: e.render.toList ++ ['>'] := by
      simp [render]
    rw [readChars_wrap (by simp) hx ht, ih (trim_of_blank_free (render_blank_free e))]
    rfl
  | set e ih =>
    have hx : (set e).render.toList = "Set".toList ++ '<' :: e.render.toList ++ ['>'] := by
      simp [render]
    rw [readChars_wrap (by simp) hx ht, ih (trim_of_blank_free (render_blank_free e))]
    rfl
  | map e ih =>
    have hx : (map e).render.toList = "Map".toList ++ '<' :: e.render.toList ++ ['>'] := by
      simp [render]
    rw [readChars_wrap (by simp) hx ht, ih (trim_of_blank_free (render_blank_free e))]
    rfl
  -- a scalar's name has no `<`, and names itself
  | _ => rw [readChars_name (by rw [ht]; decide), ht]; rfl

/-- Every descriptor, however deeply its containers nest, is read back from its text. -/
theorem read_render (t : Ty) : read? t.render = some t := readChars_render t

end Ty

end TypedExpr
