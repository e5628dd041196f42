import Mathlib.Data.Prod.Lex
import TypedExpr.Binary64.Bits
import TypedExpr.Syntax.Parser

/-! Why the parser stops. A point of the descent is a goal, the tokens left and the nesting depth.
-/

namespace TypedExpr.Parser

/-- What a call lowers: the tokens left, then the levels of nesting left, then the rank. -/
def Point.key (p : Point) : ℕ ×ₗ ℕ ×ₗ ℕ :=
  toLex (p.tokens.length, toLex (maxDepth - p.depth, p.goal.rank))

theorem Descent.key_lt {p q : Point} (h : Descent p q) : p.key < q.key := by
  simp only [Point.key, Prod.Lex.toLex_lt_toLex]
  cases h with
  | consume h => exact .inl h
  | enter hk _ => exact .inr ⟨rfl, .inl (Nat.sub_lt_sub_left hk (Nat.lt_succ_self _))⟩
  | turn hl hr =>
    rcases Nat.lt_or_eq_of_le hl with h | h
    · exact .inl h
    · exact .inr ⟨h, .inr ⟨rfl, hr⟩⟩

theorem Descent.consumes_of_rank_le {p q : Point} (h : Descent p q)
    (hr : q.goal.rank ≤ p.goal.rank) : p.tokens.length < q.tokens.length := by
  cases h with
  | consume h => exact h
  | enter _ h => exact absurd hr (Nat.not_le.mpr h)
  | turn _ h => exact absurd hr (Nat.not_le.mpr h)

theorem Descent.wf : WellFounded Descent :=
  Subrelation.wf (fun h => h.key_lt) (InvImage.wf Point.key wellFounded_lt)

theorem run_eq_step (len : Nat) (g : Goal) (ts : Tokens) (k : Nat) :
    run len g ts k = step len g ts k fun g' ts' k' _ => run len g' ts' k' := by
  rw [run.eq_def]
  cases g <;> rfl

variable {len : Nat}

theorem eq_run_of_step {F : (g : Goal) → (ts : Tokens) → Nat → Result ts}
    (hF : ∀ g ts k, F g ts k = step len g ts k fun g' ts' k' _ => F g' ts' k') :
    F = run len := by
  suffices h : ∀ p : Point, F p.goal p.tokens p.depth = run len p.goal p.tokens p.depth by
    funext g ts k
    exact h ⟨g, ts, k⟩
  intro p
  induction p using Descent.wf.induction with
  | h p ih =>
    rw [hF, run_eq_step]
    congr 1
    funext g' ts' k' hd
    exact ih ⟨g', ts', k'⟩ hd

/-- The parser stops on every input. -/
theorem run_terminates (len : Nat) :
    (∀ p q : Point, Descent p q →
      p.key < q.key ∧ (q.goal.rank ≤ p.goal.rank → p.tokens.length < q.tokens.length)) ∧
    ∀ F : (g : Goal) → (ts : Tokens) → Nat → Result ts,
      (∀ g ts k, F g ts k = step len g ts k fun g' ts' k' _ => F g' ts' k') ↔ F = run len := by
  refine ⟨fun p q h => ⟨h.key_lt, h.consumes_of_rank_le⟩, fun F => ⟨eq_run_of_step, ?_⟩⟩
  rintro rfl
  exact run_eq_step len

end TypedExpr.Parser
