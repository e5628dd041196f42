import TypedExpr.Proofs.Cache.Refinement

/-! The counters of a cache balance against what its callers did. Along a run, `Tally` counts from
outside the cache the keys that arrived by an insertion and the keys that left, those that left by
`remove` or `clear` apart from those that left during a lookup or a `put` (evictions). -/

namespace TypedExpr

namespace CacheOp

variable {α ε : Type}

def isFetch : CacheOp α ε → Bool
  | .fetch .. => true
  | _ => false

def isRemoval : CacheOp α ε → Bool
  | .remove _ | .clear => true
  | _ => false

def isRead : CacheOp α ε → Bool
  | .find _ | .contains _ | .size | .stats => true
  | _ => false

end CacheOp

namespace Cache

variable {α ε : Type}

def inserts (c : Cache α) : CacheOp α ε → Bool
  | .fetch k f => !c.contains k && (f k).isOk
  | .put k _ => !c.contains k
  | _ => false

def leaving (c c' : Cache α) : Finset String := c.keys.toFinset \ c'.keys.toFinset

def arriving (c c' : Cache α) : Finset String := c'.keys.toFinset \ c.keys.toFinset

theorem size_add_leaving {c c' : Cache α} (hn : c.keys.Nodup) (hn' : c'.keys.Nodup) :
    c'.size + (leaving c c').card = c.size + (arriving c c').card := by
  rw [size_eq_card hn, size_eq_card hn', abs_keys, abs_keys, leaving, arriving, Nat.add_comm,
    Finset.card_sdiff_add_card, Finset.union_comm, ← Finset.card_sdiff_add_card, Nat.add_comm]

theorem arriving_eq_empty {c c' : Cache α} (h : ∀ j ∈ c'.keys, j ∈ c.keys) : arriving c c' = ∅ :=
  Finset.sdiff_eq_empty_iff_subset.mpr fun j hj => by simpa using h j (by simpa using hj)

theorem leaving_eq_empty {c c' : Cache α} (h : c'.keys = c.keys) : leaving c c' = ∅ := by
  simp [leaving, h]

section Store

variable (c : Cache α) (k : String) (x : α)

@[simp] theorem store_hits : (c.store k x).hits = c.hits := by
  unfold store
  split <;> simp [evictIfFull_eq]

@[simp] theorem store_misses : (c.store k x).misses = c.misses := by
  unfold store
  split <;> simp [evictIfFull_eq]

@[simp] theorem store_compilations : (c.store k x).compilations = c.compilations := by
  unfold store
  split <;> simp [evictIfFull_eq]

@[simp] theorem store_failures : (c.store k x).failures = c.failures := by
  unfold store
  split <;> simp [evictIfFull_eq]

theorem mem_dropped {j : String} (h : j ∈ c.dropped k) : j ∈ c.keys ∧ j ≠ k := by
  unfold dropped at h
  split at h
  · cases h
  · next hk =>
    unfold evicted at h
    split at h
    · cases h
    · split at h
      · cases h
      · have hj := mem_keys_of_oldest h
        refine ⟨hj, fun hjk => hk ?_⟩
        rw [contains_iff, ← hjk]
        exact hj

theorem dropped_nodup (hn : c.keys.Nodup) : (c.dropped k).Nodup := by
  unfold dropped evicted
  split
  · exact List.nodup_nil
  · split
    · exact List.nodup_nil
    · split
      · exact List.nodup_nil
      · exact oldest_nodup hn

theorem leaving_store : leaving c (c.store k x) = (c.dropped k).toFinset := by
  ext j
  simp only [leaving, Finset.mem_sdiff, List.mem_toFinset, mem_store_keys]
  constructor
  · rintro ⟨hj, hnot⟩
    by_contra hd
    exact hnot (.inr ⟨hj, hd⟩)
  · intro hd
    obtain ⟨hj, hjk⟩ := mem_dropped c k hd
    refine ⟨hj, ?_⟩
    rintro (rfl | ⟨-, hnd⟩)
    · exact hjk rfl
    · exact hnd hd

theorem arriving_store : arriving c (c.store k x) = if c.contains k then ∅ else {k} := by
  ext j
  simp only [arriving, Finset.mem_sdiff, List.mem_toFinset, mem_store_keys]
  by_cases hk : c.contains k
  · simp only [hk, if_true, Finset.notMem_empty, iff_false]
    rintro ⟨rfl | ⟨hj, -⟩, hnot⟩
    · exact hnot ((contains_iff c _).mp hk)
    · exact hnot hj
  · have hk' : k ∉ c.keys := fun h => hk ((contains_iff c k).mpr h)
    simp only [hk, Bool.false_eq_true, if_false, Finset.mem_singleton]
    constructor
    · rintro ⟨rfl | ⟨hj, -⟩, hnot⟩
      · rfl
      · exact absurd hj hnot
    · rintro rfl
      exact ⟨.inl rfl, hk'⟩

end Store

theorem exec_fetch (c : Cache α) (k : String) (f : String → Except ε α) :
    (c.contains k = true ∧ c.exec (.fetch k f) = { c.touch k with hits := c.hits + 1 }) ∨
    (∃ e, c.contains k = false ∧ f k = .error e ∧
      c.exec (.fetch k f) = { c with misses := c.misses + 1, failures := c.failures + 1 }) ∨
    (∃ x, c.contains k = false ∧ f k = .ok x ∧
      c.exec (.fetch k f) =
        { c with misses := c.misses + 1, compilations := c.compilations + 1 }.store k x) := by
  rcases h : c.find? k with _ | x
  · have hk : c.contains k = false := (find?_eq_none_iff c k).mp h
    cases hf : f k with
    | error e => exact .inr (.inl ⟨e, hk, rfl, by rw [exec, fetch_miss_error c k h hf]⟩)
    | ok x => exact .inr (.inr ⟨x, hk, rfl, by rw [exec, fetch_miss_ok c k h hf]⟩)
  · have hk : c.contains k = true := by
      rw [← Bool.not_eq_false, ← find?_eq_none_iff, h]
      exact Option.some_ne_none x
    exact .inl ⟨hk, by rw [exec, fetch_hit c k h f]⟩

section Exec

variable {c : Cache α}

theorem exec_hits_misses (op : CacheOp α ε) :
    (c.exec op).hits + (c.exec op).misses = c.hits + c.misses + if op.isFetch then 1 else 0 := by
  cases op with
  | fetch k f =>
    rcases exec_fetch c k f with ⟨-, he⟩ | ⟨e, -, -, he⟩ | ⟨x, -, -, he⟩ <;>
      simp only [he, touch, store_hits, store_misses, CacheOp.isFetch, if_true] <;> omega
  | put k x => simp [exec, put, CacheOp.isFetch]
  | remove | clear | find | contains | size | stats => rfl

theorem exec_misses (op : CacheOp α ε) :
    (c.exec op).misses + c.compilations + c.failures =
      c.misses + (c.exec op).compilations + (c.exec op).failures := by
  cases op with
  | fetch k f =>
    rcases exec_fetch c k f with ⟨-, he⟩ | ⟨e, -, -, he⟩ | ⟨x, -, -, he⟩ <;>
      simp only [he, touch, store_misses, store_compilations, store_failures] <;> omega
  | put k x => simp [exec, put]
  | remove | clear | find | contains | size | stats => rfl

theorem exec_evictions (hn : c.keys.Nodup) (op : CacheOp α ε) :
    (c.exec op).evictions =
      c.evictions + if op.isRemoval then 0 else (leaving c (c.exec op)).card := by
  cases op with
  | fetch k f =>
    rcases exec_fetch c k f with ⟨-, he⟩ | ⟨e, -, -, he⟩ | ⟨x, -, -, he⟩
    · have hl : leaving c (c.exec (.fetch k f)) = ∅ :=
        leaving_eq_empty (by rw [he]; exact touch_keys c k)
      rw [hl, he]
      rfl
    · have hl : leaving c (c.exec (.fetch k f)) = ∅ := leaving_eq_empty (by rw [he]; rfl)
      rw [hl, he]
      rfl
    · -- counting a miss changes neither the keys nor the keys made room with
      have hl := leaving_store { c with misses := c.misses + 1, compilations := c.compilations + 1 } k x
      have hd := dropped_nodup { c with misses := c.misses + 1, compilations := c.compilations + 1 } k hn
      rw [he, store_evictions, show leaving c _ = _ from hl, List.toFinset_card_of_nodup hd]
      rfl
  | put k x =>
    simp only [exec, put, CacheOp.isRemoval]
    rw [store_evictions, leaving_store, List.toFinset_card_of_nodup (dropped_nodup _ k hn)]
    rfl
  | remove | clear => rfl
  | find | contains | size | stats => simp [exec, CacheOp.isRemoval, leaving]

theorem exec_arriving (op : CacheOp α ε) :
    (arriving c (c.exec op)).card = if c.inserts op then 1 else 0 := by
  cases op with
  | fetch k f =>
    rcases exec_fetch c k f with ⟨hk, he⟩ | ⟨e, hk, hf, he⟩ | ⟨x, hk, hf, he⟩
    · have ha : arriving c (c.exec (.fetch k f)) = ∅ := arriving_eq_empty fun j hj => by
        rwa [he, show ({ c.touch k with hits := c.hits + 1 } : Cache α).keys = c.keys from
          touch_keys c k] at hj
      rw [ha]
      simp [inserts, hk]
    · have ha : arriving c (c.exec (.fetch k f)) = ∅ :=
        arriving_eq_empty fun j hj => by rwa [he] at hj
      rw [ha]
      simp [inserts, hf, Except.isOk, Except.toBool]
    · have ha := arriving_store { c with misses := c.misses + 1, compilations := c.compilations + 1 } k x
      have hk' : ({ c with misses := c.misses + 1, compilations := c.compilations + 1 } : Cache α).contains
          k = false := hk
      rw [he, show arriving c _ = _ from ha, hk']
      simp [inserts, hk, hf, Except.isOk, Except.toBool]
  | put k x =>
    simp only [exec, put, arriving_store, inserts]
    by_cases hk : c.contains k <;> simp [hk]
  | remove k =>
    rw [arriving_eq_empty fun j hj => ((mem_keys_filter (p := (· != k))).mp hj).1]
    rfl
  | clear =>
    rw [arriving_eq_empty fun j hj => by simp [exec, clear, keys] at hj]
    rfl
  | find | contains | size | stats => simp [exec, inserts, arriving]

end Exec

/-- What a run did, counted from outside the cache. -/
structure Tally where
  /-- Absent keys stored. -/
  inserted : Nat
  /-- Keys that left during lookups and `put`. -/
  evicted : Nat
  /-- Keys that left by `remove` and `clear`. -/
  removed : Nat

def Tally.zero : Tally := ⟨0, 0, 0⟩

def Tally.record (t : Tally) (c : Cache α) (op : CacheOp α ε) : Tally :=
  let gone := (leaving c (c.exec op)).card
  { inserted := t.inserted + if c.inserts op then 1 else 0
    evicted := t.evicted + if op.isRemoval then 0 else gone
    removed := t.removed + if op.isRemoval then gone else 0 }

def Tally.after (t : Tally) : Cache α → List (CacheOp α ε) → Tally
  | _, [] => t
  | c, op :: ops => (t.record c op).after (c.exec op) ops

/-- The counters of `c` against a tally `t` of `lookups` lookups. -/
structure Balanced (c : Cache α) (t : Tally) (lookups : Nat) : Prop where
  nodup : c.keys.Nodup
  hits_misses : c.hits + c.misses = lookups
  misses_eq : c.misses = c.compilations + c.failures
  evictions_eq : c.evictions = t.evicted
  inserted_eq : t.inserted = c.size + c.evictions + t.removed

theorem balanced_empty (p : CachePolicy) : (Cache.empty p : Cache α).Balanced Tally.zero 0 where
  nodup := List.nodup_nil
  hits_misses := rfl
  misses_eq := rfl
  evictions_eq := rfl
  inserted_eq := rfl

theorem Balanced.exec {c : Cache α} {t : Tally} {n : Nat} (h : c.Balanced t n)
    (op : CacheOp α ε) :
    (c.exec op).Balanced (t.record c op) (n + if op.isFetch then 1 else 0) where
  nodup := exec_nodup h.nodup op
  hits_misses := by rw [exec_hits_misses, h.hits_misses]
  misses_eq := by
    have := exec_misses (c := c) op
    have := h.misses_eq
    omega
  evictions_eq := by rw [exec_evictions h.nodup, h.evictions_eq]; rfl
  inserted_eq := by
    -- the keys that arrive are the insertion, the keys that leave are evicted or removed
    have hsize := size_add_leaving h.nodup (exec_nodup h.nodup op)
    have hev := exec_evictions h.nodup op
    rw [exec_arriving] at hsize
    have := h.inserted_eq
    simp only [Tally.record]
    by_cases hr : op.isRemoval <;> simp only [hr, if_true, Bool.false_eq_true, if_false] at hev ⊢ <;>
      omega

theorem Balanced.run {c : Cache α} {t : Tally} {n : Nat} (h : c.Balanced t n)
    (ops : List (CacheOp α ε)) :
    (c.run ops).Balanced (t.after c ops) (n + ops.countP CacheOp.isFetch) := by
  induction ops generalizing c t n with
  | nil => exact h
  | cons op ops ih =>
    have h' := ih (h.exec op)
    rw [List.countP_cons, Nat.add_comm (List.countP _ _), ← Nat.add_assoc]
    exact h'

/-- The counters of every cache reached from an empty one, whatever its policy. -/
theorem run_counters_balance (p : CachePolicy) (ops : List (CacheOp α ε)) :
    let c := (Cache.empty p).run ops
    let t := Tally.zero.after (Cache.empty p) ops
    c.stats.hits + c.stats.misses = ops.countP CacheOp.isFetch ∧
    c.stats.misses = c.stats.compilations + c.stats.failures ∧
    c.stats.entries = c.size ∧
    c.stats.evictions = t.evicted ∧
    t.inserted = c.size + c.stats.evictions + t.removed ∧
    c.keys.Nodup ∧
    ∀ op : CacheOp α ε, op.isRead = true → c.exec op = c := by
  intro c t
  have h := (balanced_empty (α := α) p).run ops
  rw [Nat.zero_add] at h
  refine ⟨h.hits_misses, h.misses_eq, rfl, h.evictions_eq, h.inserted_eq, h.nodup, ?_⟩
  intro op hr
  cases op with
  | find | contains | size | stats => rfl
  | fetch | put | remove | clear => simp [CacheOp.isRead] at hr

end Cache

end TypedExpr
