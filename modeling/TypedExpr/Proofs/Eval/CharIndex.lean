import TypedExpr.Eval.Methods

/-! Strings are indexed by characters, not bytes. -/

namespace TypedExpr

namespace Value

variable (pats : Patterns) (s : String)

theorem call_str_text {m : String} (args : List Value)
    (hm : m ≠ "toString" ∧ m ≠ "equals" ∧ m ≠ "length" ∧ m ≠ "size" ∧ m ≠ "isEmpty") :
    call pats (.str s) m args = stringMethod pats s m args := by
  simp [call, commonMethod, hm, size?]

theorem call_str_length : call pats (.str s) "length" [] = (.ok (ofCount s.length), pats) := by
  simp [call, commonMethod, size?, arity, pure, Except.pure, bind, Except.bind]

theorem property_str_size : property (.str s) "size" = .ok (ofCount s.length) := by
  simp [property, size?]

theorem substring_range_ok {b e : Int64}
    (h : 0 ≤ b.toInt ∧ b.toInt ≤ e.toInt ∧ e.toInt ≤ s.length) :
    stringMethod pats s "substring" [.int b, .int e] =
      (.ok (.str (String.ofList (s.toList.extract b.toInt.toNat e.toInt.toNat))), pats) := by
  have hn : (e.toInt - b.toInt).toNat = e.toInt.toNat - b.toInt.toNat := by omega
  simp [stringMethod, arity, intArg, arg0, arg1, bind, Except.bind, Functor.map, Except.map,
    -Int64.toNat_toInt]
  rw [if_neg (by omega), hn]
  rfl

theorem substring_range_error {b e : Int64}
    (h : ¬(0 ≤ b.toInt ∧ b.toInt ≤ e.toInt ∧ e.toInt ≤ s.length)) :
    stringMethod pats s "substring" [.int b, .int e] =
      (.error (.invalidArguments "substring"
        s!"range {b.toInt}..{e.toInt} is invalid for length {s.length}"), pats) := by
  simp [stringMethod, arity, intArg, arg0, arg1, bind, Except.bind, Functor.map, Except.map,
    -Int64.toNat_toInt]
  rw [if_pos (by omega)]
  rfl

theorem substring_rest_ok {b : Int64} (h : 0 ≤ b.toInt ∧ b.toInt ≤ s.length) :
    stringMethod pats s "substring" [.int b] =
      (.ok (.str (String.ofList (s.toList.extract b.toInt.toNat s.length))), pats) := by
  have hn : ((s.length : Int) - b.toInt).toNat = s.length - b.toInt.toNat := by omega
  simp [stringMethod, arity, intArg, arg0, bind, Except.bind, pure, Except.pure,
    -Int64.toNat_toInt]
  rw [if_neg (by omega), hn]

theorem substring_from {b e : Int64} (he : e.toInt = s.length) :
    stringMethod pats s "substring" [.int b] = stringMethod pats s "substring" [.int b, .int e] := by
  simp [stringMethod, arity, intArg, arg0, arg1, bind, Except.bind, Functor.map, Except.map, he,
    pure, Except.pure]

theorem charAt_in {i : Int64} (h : 0 ≤ i.toInt ∧ i.toInt < s.length) :
    ∃ c, s.toList[i.toInt.toNat]? = some c ∧ charAt s i = .ok (.char c) := by
  have hi : i.toInt.toNat < s.toList.length := by rw [String.length_toList]; omega
  refine ⟨s.toList[i.toInt.toNat], List.getElem?_eq_getElem hi, ?_⟩
  unfold charAt
  dsimp only
  rw [if_neg (by omega), List.getElem?_eq_getElem hi]

theorem charAt_out {i : Int64} (h : ¬(0 ≤ i.toInt ∧ i.toInt < s.length)) :
    charAt s i = .error (.indexOutOfBounds i.toInt s.length "String") := by
  unfold charAt
  dsimp only
  split
  next c hc =>
    -- a character found at `i` would put `i` inside the string
    exfalso
    split at hc
    · cases hc
    · have := (List.getElem?_eq_some_iff.mp hc).1
      rw [String.length_toList] at this
      omega
  next => rfl

theorem extract_append_extract {α : Type} (l : List α) (k : Nat) :
    l.extract 0 k ++ l.extract k l.length = l := by
  have hrest : (l.drop k).take (l.length - k) = l.drop k :=
    List.take_of_length_le (by simp)
  simp only [List.extract_eq_take_drop, List.drop_zero, Nat.sub_zero, hrest, List.take_append_drop]

theorem binary_add_str (x y : String) : binary .add (.str x) (.str y) = .ok (.str (x ++ y)) := by
  simp [binary, arith, isText, render]

end Value

open Value in
/-- Every string is indexed by its characters: its length and size count characters; `substring(b,
e)` succeeds, with the characters `b` to `e - 1`, exactly on `0 ≤ b ≤ e ≤ n` and fails with invalid
arguments on every other pair; `substring(b)` is `substring(b, n)`; the halves cut at any `0 ≤ k ≤
n` join back to the string; `charAt(i)` and `s[i]` agree, and give the `i`-th character on `0 ≤ i <
n` and an out-of-bounds fault on every other index. -/
theorem text_methods_index_chars (pats : Patterns) (s : String) :
    (call pats (.str s) "length" [] = (.ok (ofCount s.length), pats) ∧
      property (.str s) "size" = .ok (ofCount s.length)) ∧
    (∀ b e : Int64,
      ((0 ≤ b.toInt ∧ b.toInt ≤ e.toInt ∧ e.toInt ≤ s.length) →
        call pats (.str s) "substring" [.int b, .int e] =
          (.ok (.str (String.ofList (s.toList.extract b.toInt.toNat e.toInt.toNat))), pats)) ∧
      (¬(0 ≤ b.toInt ∧ b.toInt ≤ e.toInt ∧ e.toInt ≤ s.length) →
        ∃ msg, call pats (.str s) "substring" [.int b, .int e] =
          (.error (.invalidArguments "substring" msg), pats))) ∧
    (∀ b e : Int64, e.toInt = s.length →
      call pats (.str s) "substring" [.int b] = call pats (.str s) "substring" [.int b, .int e]) ∧
    (∀ k : Int64, 0 ≤ k.toInt → k.toInt ≤ s.length →
      ∃ x y, call pats (.str s) "substring" [.int 0, .int k] = (.ok (.str x), pats) ∧
        call pats (.str s) "substring" [.int k] = (.ok (.str y), pats) ∧
        binary .add (.str x) (.str y) = .ok (.str s)) ∧
    (∀ i : Int64, call pats (.str s) "charAt" [.int i] = (index (.str s) (.int i), pats) ∧
      ((0 ≤ i.toInt ∧ i.toInt < s.length) →
        ∃ c, s.toList[i.toInt.toNat]? = some c ∧ index (.str s) (.int i) = .ok (.char c)) ∧
      (¬(0 ≤ i.toInt ∧ i.toInt < s.length) →
        index (.str s) (.int i) = .error (.indexOutOfBounds i.toInt s.length "String"))) := by
  have hsub : ∀ args, call pats (.str s) "substring" args = stringMethod pats s "substring" args :=
    fun args => call_str_text pats s args (by decide)
  have hindex : ∀ i, index (.str s) (.int i) = charAt s i := fun i => rfl
  refine ⟨⟨call_str_length pats s, property_str_size s⟩, fun b e => ?_, fun b e he => ?_,
    fun k hk0 hkn => ?_, fun i => ?_⟩
  · rw [hsub]
    exact ⟨substring_range_ok pats s, fun h => ⟨_, substring_range_error pats s h⟩⟩
  · rw [hsub, hsub, substring_from pats s he]
  · have h0 : (0 : Int64).toInt = 0 := rfl
    refine ⟨_, _, by rw [hsub, substring_range_ok pats s (by omega)],
      by rw [hsub, substring_rest_ok pats s (by omega)], ?_⟩
    rw [binary_add_str, ← String.ofList_append, h0, Int.toNat_zero, ← String.length_toList,
      extract_append_extract, String.ofList_toList]
  · refine ⟨by rw [call_str_text pats s _ (by decide)]; rfl, fun h => ?_, fun h => ?_⟩
    · rw [hindex]
      exact charAt_in s h
    · rw [hindex]
      exact charAt_out s h

end TypedExpr
