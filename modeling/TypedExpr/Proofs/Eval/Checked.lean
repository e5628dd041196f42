import Mathlib
import TypedExpr.Eval.Operator

/-! Integer arithmetic is exact or fails. On two 64-bit integers the operators `+ - * / %` give the
exact integer result (division truncating toward zero, the remainder with the sign of the dividend)
when it fits in 64 bits. -/

namespace TypedExpr

def InInt64 (n : Int) : Prop := -(2 ^ 63) ≤ n ∧ n < 2 ^ 63

instance : DecidablePred InInt64 := fun _ => inferInstanceAs (Decidable (_ ∧ _))

namespace BinOp

/-- The arithmetic operators `+ - * / %`. -/
def IsArith (op : BinOp) : Prop := op ∈ [add, sub, mul, div, rem]

instance : DecidablePred IsArith := fun op => inferInstanceAs (Decidable (op ∈ _))

def Divides (op : BinOp) : Prop := op = div ∨ op = rem

instance : DecidablePred Divides := fun _ => inferInstanceAs (Decidable (_ ∨ _))

def exact (op : BinOp) (x y : Int) : Int :=
  match op with
  | add => x + y
  | sub => x - y
  | mul => x * y
  | div => x.tdiv y
  | rem => x.tmod y
  | _ => 0

def checked (op : BinOp) (x y : Int) : Except Fault Int64 :=
  if op.Divides ∧ y = 0 then .error .divisionByZero
  else if InInt64 (op.exact x y) ∧ ¬(op = rem ∧ x = int64Min ∧ y = -1) then
    .ok (Int64.ofInt (op.exact x y))
  else .error (.overflow op.symbol)

end BinOp

theorem int64?_eq (n : Int) : int64? n = if InInt64 n then some (Int64.ofInt n) else none := rfl

theorem toInt_ofInt_of_inInt64 {n : Int} (h : InInt64 n) : (Int64.ofInt n).toInt = n :=
  Int64.toInt_ofInt_of_le h.1 h.2

theorem inInt64_toInt (n : Int64) : InInt64 n.toInt :=
  ⟨Int64.le_toInt n, Int64.toInt_lt n⟩

theorem inInt64_tdiv_iff {x y : Int} (hx : InInt64 x) (hy : y ≠ 0) :
    InInt64 (x.tdiv y) ↔ ¬(x = int64Min ∧ y = -1) := by
  simp only [InInt64, int64Min] at hx ⊢
  have hq := Int.natAbs_tdiv x y
  constructor
  · rintro ⟨-, hhi⟩ ⟨rfl, rfl⟩
    rw [Int.tdiv_neg, Int.tdiv_one] at hhi
    omega
  · intro hne
    by_cases hm : y = -1
    · subst hm
      rw [Int.tdiv_neg, Int.tdiv_one]
      omega
    · by_cases h1 : y = 1
      · subst h1
        rw [Int.tdiv_one]
        omega
      · -- a divisor of magnitude two or more at least halves the magnitude
        have h2 : 2 ≤ y.natAbs := by omega
        have hle : (x.tdiv y).natAbs ≤ x.natAbs / 2 := hq ▸ Nat.div_le_div_left h2 (by decide)
        omega

theorem inInt64_tmod (x : Int) {y : Int} (hy : InInt64 y) (hy0 : y ≠ 0) : InInt64 (x.tmod y) := by
  simp only [InInt64] at hy ⊢
  have hr := Int.natAbs_tmod x y
  have hlt : x.natAbs % y.natAbs < y.natAbs := Nat.mod_lt _ (by omega)
  omega

namespace Value

variable {op : BinOp}

theorem intArith_eq (hop : op.IsArith) (a b : Int64) :
    intArith op a b = some (op.checked a.toInt b.toInt) := by
  simp only [BinOp.IsArith, List.mem_cons, List.not_mem_nil, or_false] at hop
  rcases hop with rfl | rfl | rfl | rfl | rfl
  all_goals
    simp only [intArith, BinOp.checked, BinOp.Divides, BinOp.exact, int64?_eq, Option.some.injEq]
    split_ifs <;> simp_all

theorem arith_int_eq (hop : op.IsArith) (a b : Int64) :
    arith op (.int a) (.int b) = (op.checked a.toInt b.toInt).map .int := by
  simp only [arith, isText, Bool.or_false, Bool.false_eq_true, and_false, ↓reduceIte, promote,
    intArith_eq hop]

theorem arith_divides_overflow_iff (hop : op.Divides) (a b : Int64) (hb : b.toInt ≠ 0) :
    arith op (.int a) (.int b) = .error (.overflow op.symbol) ↔
      a.toInt = int64Min ∧ b.toInt = -1 := by
  have hop' : op.IsArith := by
    rcases hop with rfl | rfl <;> decide
  -- the range test and the test for the least integer by `-1` say the same here
  have hfit : InInt64 (op.exact a.toInt b.toInt) ∧
      ¬(op = .rem ∧ a.toInt = int64Min ∧ b.toInt = -1) ↔ ¬(a.toInt = int64Min ∧ b.toInt = -1) := by
    rcases hop with rfl | rfl
    · simpa [BinOp.exact] using inInt64_tdiv_iff (inInt64_toInt a) hb
    · simp [BinOp.exact, inInt64_tmod a.toInt (inInt64_toInt b) hb]
  rw [arith_int_eq hop', BinOp.checked, if_neg fun h => hb h.2]
  by_cases hm : a.toInt = int64Min ∧ b.toInt = -1
  · rw [if_neg fun h => hfit.mp h hm]
    simp [Except.map, hm]
  · rw [if_pos (hfit.mpr hm)]
    simp [Except.map, hm]

end Value

/-- Arithmetic on two 64-bit integers is exact or fails: a zero divisor of `/` or `%` and nothing
else is a division fault; otherwise the result is the exact integer result when it fits and the
operation is not the remainder of the least integer by `-1`, and an overflow when it is not. -/
theorem arith_int_checked (op : BinOp) (hop : op.IsArith) (a b : Int64) :
    let e := op.exact a.toInt b.toInt
    let byZero := op.Divides ∧ b.toInt = 0
    let minRem := op = .rem ∧ a.toInt = int64Min ∧ b.toInt = -1
    (Value.arith op (.int a) (.int b) = .error .divisionByZero ↔ byZero) ∧
    (¬byZero →
      ((∃ n : Int64, Value.arith op (.int a) (.int b) = .ok (.int n) ∧ n.toInt = e) ↔
        InInt64 e ∧ ¬minRem) ∧
      (Value.arith op (.int a) (.int b) = .error (.overflow op.symbol) ↔ ¬InInt64 e ∨ minRem)) ∧
    (∀ n : Int64, n.toInt ≠ int64Min →
      ∃ m : Int64, Value.unary .neg (.int n) = .ok (.int m) ∧ m.toInt = -n.toInt) ∧
    (∀ n : Int64, n.toInt = int64Min → Value.unary .neg (.int n) = .error (.overflow "-")) := by
  dsimp only
  rw [Value.arith_int_eq hop, BinOp.checked]
  refine ⟨?_, fun hz => ?_, fun n hn => ?_, fun n hn => if_pos hn⟩
  · -- the division fault is decided before the range
    split_ifs <;> simp_all [Except.map]
  · rw [if_neg hz]
    split_ifs with hf
    · exact ⟨⟨fun _ => hf, fun _ => ⟨_, rfl, toInt_ofInt_of_inInt64 hf.1⟩⟩, by simp [Except.map, hf]⟩
    · refine ⟨⟨fun ⟨_, h, _⟩ => by simp [Except.map] at h, fun h => absurd h hf⟩, ?_⟩
      exact ⟨fun _ => (not_and_or.mp hf).imp_right not_not.mp, fun _ => rfl⟩
  · -- only the least integer has a negation out of range
    have hr : InInt64 (-n.toInt) := by
      have := inInt64_toInt n
      simp only [InInt64, int64Min] at hn this ⊢
      omega
    exact ⟨_, if_neg hn, toInt_ofInt_of_inInt64 hr⟩

theorem arith_int_checked_rem_min : BinOp.rem.IsArith ∧
    ¬(BinOp.rem.Divides ∧ (-1 : Int64).toInt = 0) ∧
    (Value.arith .rem (.int Int64.minValue) (.int (-1)) = .error (.overflow BinOp.rem.symbol) ↔
      ¬InInt64 (BinOp.rem.exact Int64.minValue.toInt (-1 : Int64).toInt) ∨
        (BinOp.rem = .rem ∧ Int64.minValue.toInt = int64Min ∧ (-1 : Int64).toInt = -1)) :=
  have hop : BinOp.rem.IsArith := by decide
  have hz : ¬(BinOp.rem.Divides ∧ (-1 : Int64).toInt = 0) := by decide
  ⟨hop, hz, ((arith_int_checked .rem hop Int64.minValue (-1)).2.1 hz).2⟩

theorem rem_min_neg_one_overflows :
    BinOp.rem.exact Int64.minValue.toInt (-1 : Int64).toInt = 0 ∧ InInt64 0 ∧
      Value.arith .rem (.int Int64.minValue) (.int (-1)) = .error (.overflow "%") :=
  ⟨by decide, by decide, rfl⟩

end TypedExpr
