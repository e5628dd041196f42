import Mathlib.Data.Finset.Card
import TypedExpr.Proofs.Cache.Entries

/-! An LRU map: keys, each with an item and the time of its last use, and a clock that hands out the
times. -/

namespace TypedExpr

/-- Keys with an item and the time of their last use, and the next time to hand out. -/
@[ext]
structure Lru (α : Type) where
  keys : Finset String
  val : String → Option (α × Nat)
  clock : Nat
  mem_keys : ∀ k, k ∈ keys ↔ val k ≠ none

namespace Lru

variable {α ε : Type}

/-- The key gets an item and the next time. -/
def set (A : Lru α) (k : String) (x : α) : Lru α where
  keys := insert k A.keys
  val := Function.update A.val k (some (x, A.clock))
  clock := A.clock + 1
  mem_keys j := by
    by_cases h : j = k
    · subst h
      simp
    · simp [A.mem_keys, h]

def drop (A : Lru α) (R : Finset String) : Lru α where
  keys := A.keys \ R
  val j := if j ∈ R then none else A.val j
  clock := A.clock
  mem_keys j := by by_cases h : j ∈ R <;> simp [h, A.mem_keys]

def clear (A : Lru α) : Lru α := ⟨∅, fun _ => none, A.clock, by simp⟩

def Older (A : Lru α) (r q : String) : Prop :=
  ∃ x t y u, A.val r = some (x, t) ∧ A.val q = some (y, u) ∧ t < u

def Evicts (A : Lru α) (m b : Nat) (k : String) (R : Finset String) : Prop :=
  if k ∈ A.keys ∨ A.keys.card < m then R = ∅
  else R ⊆ A.keys ∧ R.card = min b A.keys.card ∧ ∀ r ∈ R, ∀ q ∈ A.keys, q ∉ R → A.Older r q

def Admits (A : Lru α) (m b : Nat) (k : String) (x : α) (A' : Lru α) : Prop :=
  ∃ R, A.Evicts m b k R ∧ A' = (A.drop R).set k x

def Step (m b : Nat) (A : Lru α) (op : CacheOp α ε) (A' : Lru α) : Prop :=
  match op with
  | .fetch k f =>
    match A.val k, f k with
    | some (x, _), _ => A' = A.set k x
    | none, .error _ => A' = A
    | none, .ok x => A.Admits m b k x A'
  | .put k x => A.Admits m b k x A'
  | .remove k => A' = A.drop {k}
  | .clear => A' = A.clear
  | .find _ | .contains _ | .size | .stats => A' = A

section Lemmas

variable {A : Lru α} {m b : Nat} {k : String} {x : α} {R : Finset String}

@[simp] theorem set_keys : (A.set k x).keys = insert k A.keys := rfl
@[simp] theorem set_val : (A.set k x).val = Function.update A.val k (some (x, A.clock)) := rfl
@[simp] theorem set_clock : (A.set k x).clock = A.clock + 1 := rfl
@[simp] theorem drop_keys : (A.drop R).keys = A.keys \ R := rfl
@[simp] theorem drop_clock : (A.drop R).clock = A.clock := rfl

theorem drop_val (j : String) : (A.drop R).val j = if j ∈ R then none else A.val j := rfl

theorem drop_val_of_some {j : String} {p : α × Nat} (h : (A.drop R).val j = some p) :
    A.val j = some p := by
  rw [drop_val] at h
  split at h
  · cases h
  · exact h

theorem Evicts.not_mem (h : A.Evicts m b k R) : k ∉ R := by
  unfold Evicts at h
  split at h
  · simp [h]
  · next hk =>
    exact fun hr => hk (.inl (h.1 hr))

end Lemmas

/-- Times are below the clock and tell keys apart, and at most `m` keys are held. -/
structure Wf (m : Nat) (A : Lru α) : Prop where
  card_le : A.keys.card ≤ m
  lt_clock : ∀ {k x t}, A.val k = some (x, t) → t < A.clock
  time_inj : ∀ {j k x y t}, A.val j = some (x, t) → A.val k = some (y, t) → j = k

namespace Wf

variable {A : Lru α} {m b : Nat} {k : String} {x : α} {R : Finset String}

theorem drop (h : A.Wf m) : (A.drop R).Wf m where
  card_le := (Finset.card_le_card Finset.sdiff_subset).trans h.card_le
  lt_clock hv := h.lt_clock (drop_val_of_some hv)
  time_inj hj hk := h.time_inj (drop_val_of_some hj) (drop_val_of_some hk)

theorem clear (A : Lru α) : A.clear.Wf m where
  card_le := by simp [Lru.clear]
  lt_clock hv := by simp [Lru.clear] at hv
  time_inj hj := by simp [Lru.clear] at hj

theorem set (h : A.Wf m) (hc : (insert k A.keys).card ≤ m) : (A.set k x).Wf m where
  card_le := hc
  lt_clock {j y t} hv := by
    by_cases hj : j = k
    · subst hj
      simp at hv ⊢
      omega
    · rw [set_val, Function.update_of_ne hj] at hv
      exact Nat.lt_succ_of_lt (h.lt_clock hv)
  time_inj {i j y z t} hi hj := by
    by_cases hik : i = k <;> by_cases hjk : j = k
    · exact hik.trans hjk.symm
    · subst hik
      rw [set_val, Function.update_of_ne hjk] at hj
      simp at hi
      exact absurd (h.lt_clock hj) (by omega)
    · subst hjk
      rw [set_val, Function.update_of_ne hik] at hi
      simp at hj
      exact absurd (h.lt_clock hi) (by omega)
    · rw [set_val, Function.update_of_ne hik] at hi
      rw [set_val, Function.update_of_ne hjk] at hj
      exact h.time_inj hi hj

theorem card_admit (h : A.Wf m) (hm : 1 ≤ m) (hb : 1 ≤ b) (he : A.Evicts m b k R) :
    (insert k (A.keys \ R)).card ≤ m := by
  have hins := Finset.card_insert_le k (A.keys \ R)
  unfold Evicts at he
  split at he
  · next hroom =>
    subst he
    rcases hroom with hk | hlt
    · rw [Finset.sdiff_empty, Finset.insert_eq_of_mem hk]
      exact h.card_le
    · rw [Finset.sdiff_empty] at hins ⊢
      omega
  · next hfull =>
    obtain ⟨hsub, hcard, -⟩ := he
    have hfull : m ≤ A.keys.card := Nat.le_of_not_lt fun hlt => hfull (.inr hlt)
    have hsd := Finset.card_sdiff_of_subset hsub
    have hRk := Finset.card_le_card hsub
    have hR : 1 ≤ R.card := by
      rw [hcard]
      omega
    have hle := h.card_le
    omega

theorem of_admits (h : A.Wf m) (hm : 1 ≤ m) (hb : 1 ≤ b) {A' : Lru α} (ha : A.Admits m b k x A') :
    A'.Wf m := by
  obtain ⟨R, he, rfl⟩ := ha
  exact h.drop.set (h.card_admit hm hb he)

theorem step (h : A.Wf m) (hm : 1 ≤ m) (hb : 1 ≤ b) {op : CacheOp α ε} {A' : Lru α}
    (hs : A.Step m b op A') : A'.Wf m := by
  cases op with
  | fetch k f =>
    dsimp only [Step] at hs
    split at hs
    · next hv =>
      subst hs
      have hk : k ∈ A.keys := (A.mem_keys k).mpr (by simp [hv])
      exact h.set (by rw [Finset.insert_eq_of_mem hk]; exact h.card_le)
    · subst hs
      exact h
    · exact h.of_admits hm hb hs
  | put k x => exact h.of_admits hm hb hs
  | remove k => subst hs; exact h.drop
  | clear => subst hs; exact Wf.clear A
  | find _ | contains _ | size | stats => subst hs; exact h

end Wf

end Lru

end TypedExpr
