import TypedExpr.Proofs.Eval.Equality
import TypedExpr.Proofs.Eval.CharIndex
import TypedExpr.Proofs.Text.Search

/-! Searching a string for a string. The search runs over UTF-8 bytes and `indexOf` counts the
characters before the byte it finds; by `Text.find?_utf8` this is the least character index at which
the needle occurs (`Text.OccursAt`), which is what `substring(k, k + m)` reads. -/

namespace TypedExpr

namespace Value

variable (pats : Patterns) (s : String)

theorem stringMethod_indexOf {x : Value} {n : String} (hx : textArg "indexOf" x = .ok n) :
    stringMethod pats s "indexOf" [x] =
      (.ok ((Text.find? n.toList s.toList).elim (.int (-1)) ofCount), pats) := by
  simp [stringMethod, arity, arg0, hx, bind, Except.bind, pure, Except.pure]
  rw [Text.bytes_eq_utf8, Text.bytes_eq_utf8, ← Text.find?_utf8]
  cases Text.find? (Text.utf8 n.toList) (Text.utf8 s.toList) <;> rfl

theorem stringMethod_contains {x : Value} {n : String} (hx : textArg "contains" x = .ok n) :
    stringMethod pats s "contains" [x] = (.ok (.bool (Text.occurs n.toList s.toList)), pats) := by
  simp [stringMethod, arity, arg0, hx, bind, Except.bind, pure, Except.pure]
  rw [Text.bytes_eq_utf8, Text.bytes_eq_utf8, Text.occurs_utf8]

/-- The needle of a search: a string, or a character read as its one-character string. -/
def Needle (x : Value) (n : String) : Prop :=
  x = .str n ∨ ∃ c, x = .char c ∧ n = String.singleton c

theorem Needle.textArg {x : Value} {n : String} (h : Needle x n) (m : String) :
    textArg m x = .ok n := by
  rcases h with rfl | ⟨c, rfl, rfl⟩
  · rfl
  · rfl

theorem binary_mem_str {x : Value} {n : String} (h : Needle x n) :
    binary .mem x (.str s) = .ok (.bool (Text.occurs n.toList s.toList)) := by
  rcases h with rfl | ⟨c, rfl, rfl⟩
  · rw [binary, contains, Text.bytes_eq_utf8, Text.bytes_eq_utf8, Text.occurs_utf8]
    rfl
  · -- a character is searched for by its own encoding, the bytes of its one-character string
    have hc : String.utf8EncodeChar c = Text.utf8 [c] := (List.append_nil _).symm
    rw [binary, contains, Text.bytes_eq_utf8, hc, Text.occurs_utf8, String.toList_singleton]
    rfl

theorem substring_eq_iff_occursAt {n : String} {k : Nat} (hk : k + n.length < 2 ^ 63) :
    stringMethod pats s "substring" [.int (Int64.ofNat k), .int (Int64.ofNat (k + n.length))] =
        (.ok (.str n), pats) ↔ Text.OccursAt n.toList s.toList k := by
  have hb : (Int64.ofNat k).toInt = k := Int64.toInt_ofNat_of_lt (by omega)
  have he : (Int64.ofNat (k + n.length)).toInt = ((k + n.length : Nat) : Int) :=
    Int64.toInt_ofNat_of_lt hk
  unfold Text.OccursAt
  rw [String.length_toList, String.length_toList]
  by_cases hr : k + n.length ≤ s.length
  · rw [substring_range_ok pats s (by omega), hb, he, Int.toNat_natCast, Int.toNat_natCast]
    simp only [Prod.mk.injEq, Except.ok.injEq, Value.str.injEq, and_true, hr, true_and]
    constructor
    · intro h
      have h' := congrArg String.toList h
      rwa [String.toList_ofList] at h'
    · intro h
      rw [h, String.ofList_toList]
  · rw [substring_range_error pats s (by omega)]
    simp [hr]

end Value

open Value in
/-- `indexOf` finds the first occurrence, counting characters. -/
theorem indexOf_least_occurrence {limit : Nat} (hlim : 2 ≤ limit) {sc : Scope} {ns nx : String}
    {s n : String} {x : Value} (hs : sc.var? ns = some (.str s)) (hx : sc.var? nx = some x)
    (hn : Needle x n) (pats : Patterns) :
    (∀ k, k + n.length < 2 ^ 63 →
      (call pats (.str s) "substring" [.int (Int64.ofNat k), .int (Int64.ofNat (k + n.length))] =
        (.ok (.str n), pats) ↔ Text.OccursAt n.toList s.toList k)) ∧
    (∀ k, Text.IsFirst n.toList s.toList k →
      (Expr.call (some (.var ns)) "indexOf" [.var nx]).eval limit sc pats = (.ok (ofCount k), pats)) ∧
    ((∀ k, ¬Text.OccursAt n.toList s.toList k) →
      (Expr.call (some (.var ns)) "indexOf" [.var nx]).eval limit sc pats =
        (.ok (.int (-1)), pats)) ∧
    (n = "" →
      (Expr.call (some (.var ns)) "indexOf" [.var nx]).eval limit sc pats = (.ok (.int 0), pats)) ∧
    ∃ b : Bool,
      (Expr.binary .ge (.call (some (.var ns)) "indexOf" [.var nx]) (.lit (.int 0))).eval
          limit sc pats = (.ok (.bool b), pats) ∧
      (Expr.call (some (.var ns)) "contains" [.var nx]).eval limit sc pats =
        (.ok (.bool b), pats) ∧
      (Expr.binary .mem (.var nx) (.var ns)).eval limit sc pats = (.ok (.bool b), pats) ∧
      (b = true ↔ ∃ k, Text.OccursAt n.toList s.toList k) := by
  have hcall : ∀ {d : Nat} (m : String), d + 1 ≤ limit →
      m ≠ "toString" ∧ m ≠ "equals" ∧ m ≠ "length" ∧ m ≠ "size" ∧ m ≠ "isEmpty" →
      (Eval.expr limit sc d (.call (some (.var ns)) m [.var nx])).run.run pats =
        stringMethod pats s m [x] := fun m hd hm =>
    (Eval.expr_call_var hd hs hx).trans (call_str_text pats s [x] hm)
  have hindex : ∀ {d : Nat}, d + 1 ≤ limit →
      (Eval.expr limit sc d (.call (some (.var ns)) "indexOf" [.var nx])).run.run pats =
        (.ok ((Text.find? n.toList s.toList).elim (.int (-1)) ofCount), pats) := fun hd =>
    (hcall "indexOf" hd (by decide)).trans (stringMethod_indexOf pats s (hn.textArg _))
  have hzero : (Eval.expr limit sc 1 (.lit (.int 0))).run.run pats = (.ok (.int 0), pats) :=
    Eval.expr_lit (by omega) _
  have hfound : (Text.find? n.toList s.toList).isSome = Text.occurs n.toList s.toList := rfl
  refine ⟨fun k hk => ?_, fun k hk => ?_, fun h => ?_, fun h => ?_,
    Text.occurs n.toList s.toList, ?_, ?_, ?_, Text.occurs_iff⟩
  · rw [call_str_text pats s _ (by decide)]
    exact substring_eq_iff_occursAt pats s hk
  · rw [Expr.eval, hindex (by omega), Text.find?_eq_some_iff.mpr hk]
    rfl
  · rw [Expr.eval, hindex (by omega), Text.find?_eq_none_iff.mpr h]
    rfl
  · subst h
    rw [Expr.eval, hindex (by omega), show ("" : String).toList = [] from rfl,
      Text.find?_nil_needle]
    rfl
  · rw [Expr.eval, Eval.expr_binary (Nat.zero_le _) (by decide) (by decide) (hindex (by omega)) hzero,
      binary_ge_position, hfound]
  · rw [Expr.eval, hcall "contains" (by omega) (by decide),
      stringMethod_contains pats s (hn.textArg _)]
  · rw [Expr.eval, Eval.expr_binary (Nat.zero_le _) (by decide) (by decide)
      (Eval.expr_var (by omega) hx) (Eval.expr_var (by omega) hs), binary_mem_str s hn]

theorem indexOf_least_occurrence_multibyte :
    2 ≤ 2 ∧ (Scope.ofTarget (.str "añb€c") (.str "€c") none).var? "target" = some (.str "añb€c") ∧
      (Scope.ofTarget (.str "añb€c") (.str "€c") none).var? "param" = some (.str "€c") ∧
      Value.Needle (.str "€c") "€c" ∧
      (Expr.call (some (.var "target")) "indexOf" [.var "param"]).eval 2
          (Scope.ofTarget (.str "añb€c") (.str "€c") none) (Cache.empty .unbounded) =
        (.ok (.int 3), Cache.empty .unbounded) ∧
      (Expr.binary .mem (.var "param") (.var "target")).eval 2
          (Scope.ofTarget (.str "añb€c") (.str "€c") none) (Cache.empty .unbounded) =
        (.ok (.bool true), Cache.empty .unbounded) := by
  have hfirst : Text.IsFirst "€c".toList "añb€c".toList 3 := Text.find?_eq_some_iff.mp (by decide)
  obtain ⟨-, hidx, -, -, b, -, -, hmem, hb⟩ := @indexOf_least_occurrence 2 (le_refl 2)
    (Scope.ofTarget (.str "añb€c") (.str "€c") none) "target" "param" "añb€c" "€c" (.str "€c")
    rfl rfl (.inl rfl) (Cache.empty .unbounded)
  have hb' : b = true := hb.mpr ⟨3, hfirst.1⟩
  subst hb'
  exact ⟨le_refl 2, rfl, rfl, .inl rfl, hidx 3 hfirst, hmem⟩

end TypedExpr
