import TypedExpr.Proofs.Cache.Lru

/-! A bounded cache is an LRU map. `Cache.abs` reads the map off the entries: their keys, the item
and stamp of each, and the clock. -/

namespace TypedExpr

namespace Cache

variable {α ε : Type}

def abs (c : Cache α) : Lru α where
  keys := c.keys.toFinset
  val := c.view
  clock := c.clock
  mem_keys k := by simp [view_eq_none_iff]

@[simp] theorem abs_keys (c : Cache α) : c.abs.keys = c.keys.toFinset := rfl
@[simp] theorem abs_val (c : Cache α) : c.abs.val = c.view := rfl
@[simp] theorem abs_clock (c : Cache α) : c.abs.clock = c.clock := rfl

theorem size_eq_card {c : Cache α} (hn : c.keys.Nodup) : c.size = c.abs.keys.card := by
  rw [abs_keys, List.toFinset_card_of_nodup hn, keys, List.length_map, size]

section Oldest

/-! The keys `oldest` picks are keys of the cache, distinct, `min n size` of them, and each was
stamped before every key it leaves. -/

variable {c : Cache α} {n : Nat}

theorem byAge_sorted : (c.entries.mergeSort fun a b => a.stamp ≤ b.stamp).Pairwise
    fun a b => decide (a.stamp ≤ b.stamp) = true :=
  List.pairwise_mergeSort (fun a b c hab hbc => by simp at *; omega) (fun a b => by simp; omega) _

theorem mem_keys_of_oldest {r : String} (hr : r ∈ c.oldest n) : r ∈ c.keys := by
  obtain ⟨e, he, rfl⟩ := List.mem_map.mp hr
  have he := (List.mergeSort_perm _ _).subset (List.mem_of_mem_take he)
  exact List.mem_map_of_mem he

theorem oldest_nodup (hn : c.keys.Nodup) : (c.oldest n).Nodup := by
  have hs := ((List.mergeSort_perm c.entries fun a b => a.stamp ≤ b.stamp).map
    CacheEntry.key).nodup_iff
  exact ((List.take_sublist n (c.entries.mergeSort fun a b => a.stamp ≤ b.stamp)).map
    CacheEntry.key).nodup (hs.mpr hn)

theorem oldest_length : (c.oldest n).length = min n c.size := by
  simp [oldest, size, List.length_mergeSort]

theorem older_of_oldest (hn : c.keys.Nodup) {m : Nat} (hw : c.abs.Wf m) {r q : String}
    (hr : r ∈ c.oldest n) (hq : q ∈ c.keys) (hq' : q ∉ c.oldest n) : c.abs.Older r q := by
  obtain ⟨er, her, rfl⟩ := List.mem_map.mp hr
  obtain ⟨eq, heq, rfl⟩ := List.mem_map.mp hq
  have hperm := List.mergeSort_perm c.entries fun a b => a.stamp ≤ b.stamp
  -- the entry of `q` is among the sorted entries, and not in the part `oldest` takes
  have hdrop : eq ∈ (c.entries.mergeSort fun a b => a.stamp ≤ b.stamp).drop n := by
    have hmem : eq ∈ (c.entries.mergeSort fun a b => a.stamp ≤ b.stamp).take n ++
        (c.entries.mergeSort fun a b => a.stamp ≤ b.stamp).drop n := by
      rw [List.take_append_drop]
      exact hperm.symm.subset heq
    rcases List.mem_append.mp hmem with ht | hd
    · exact absurd (List.mem_map_of_mem ht) hq'
    · exact hd
  have hle : er.stamp ≤ eq.stamp := by
    simpa using byAge_sorted.rel_of_mem_take_of_mem_drop her hdrop
  have hvr : c.view er.key = some (er.item, er.stamp) :=
    lookup_of_mem hn (hperm.subset (List.mem_of_mem_take her))
  have hvq : c.view eq.key = some (eq.item, eq.stamp) := lookup_of_mem hn heq
  -- distinct keys have distinct stamps
  have hne : er.stamp ≠ eq.stamp := fun hs => by
    rw [hs] at hvr
    exact hq' (hw.time_inj hvr hvq ▸ hr)
  exact ⟨_, _, _, _, hvr, hvq, Nat.lt_of_le_of_ne hle hne⟩

end Oldest

section Steps

variable (c : Cache α) (k : String) (x : α)

theorem mem_store_keys (j : String) :
    j ∈ (c.store k x).keys ↔ j = k ∨ (j ∈ c.keys ∧ j ∉ c.dropped k) := by
  simp only [keys, store_entries, List.map_append, List.map_cons, List.map_nil, List.mem_append,
    List.mem_singleton, mem_keys_filter (p := (· != k)),
    mem_keys_filter (p := fun j => !(c.dropped k).contains j)]
  by_cases hj : j = k <;> simp [hj]

theorem store_abs : (c.store k x).abs = (c.abs.drop (c.dropped k).toFinset).set k x := by
  ext1
  · ext j
    simp [mem_store_keys]
  · funext j
    by_cases hj : j = k
    · subst hj
      simp [store_view]
    · simp [store_view, hj, Lru.drop_val]
  · simp [store_clock]

theorem store_nodup (hn : c.keys.Nodup) : (c.store k x).keys.Nodup := by
  have hsub : ((c.entries.filter fun e => !(c.dropped k).contains e.key).filter
      fun e => e.key != k).Sublist c.entries :=
    List.filter_sublist.trans List.filter_sublist
  simp only [keys, store_entries, List.map_append, List.map_cons, List.map_nil]
  refine List.nodup_append.mpr ⟨(hsub.map _).nodup hn, List.nodup_singleton k, ?_⟩
  -- the key being stored was filtered out of the entries kept
  intro a ha b hb
  obtain ⟨e, he, rfl⟩ := List.mem_map.mp ha
  rw [List.mem_singleton] at hb
  subst hb
  simpa using (List.mem_filter.mp he).2

theorem touch_abs {t : Nat} (hv : c.view k = some (x, t)) : (c.touch k).abs = c.abs.set k x := by
  have hk : k ∈ c.keys := by
    by_contra hk
    rw [← view_eq_none_iff] at hk
    simp [hk] at hv
  ext1
  · simp [touch_keys, hk]
  · funext j
    by_cases hj : j = k
    · subst hj
      simp [touch_view, hv]
    · simp [touch_view, hj]
  · rfl

theorem remove_abs : (c.remove k).2.abs = c.abs.drop {k} := by
  ext1
  · ext j
    simp [remove, keys, mem_keys_filter (p := (· != k))]
  · funext j
    simp [remove_view, Lru.drop_val]
  · rfl

theorem clear_abs : c.clear.abs = c.abs.clear := by
  ext1
  · simp [clear, keys, Lru.clear]
  · funext j
    simp [clear, view, lookup, Lru.clear]
  · rfl

end Steps

section Evicts

variable {c : Cache α} {m : Nat}

theorem evicts_dropped (hn : c.keys.Nodup) (hw : c.abs.Wf m) (hl : c.policy.limit = some m)
    (k : String) : c.abs.Evicts m c.policy.batch k (c.dropped k).toFinset := by
  have hcard := size_eq_card hn
  unfold Lru.Evicts dropped
  split
  · next hroom =>
    rw [List.toFinset_eq_empty_iff]
    by_cases hk : c.contains k
    · simp [hk]
    · have hlt : c.size < m := by
        rcases hroom with hk' | hlt
        · exact absurd ((contains_iff c k).mpr (by simpa using hk')) hk
        · omega
      simp [hk, evicted, hl, hlt]
  · next hfull =>
    have hk : c.contains k = false := by
      rw [← Bool.not_eq_true, contains_iff]
      exact fun h => hfull (.inl (List.mem_toFinset.mpr h))
    have hge : ¬c.size < m := fun h => hfull (.inr (by omega))
    simp only [hk, Bool.false_eq_true, if_false, evicted, hl, hge]
    refine ⟨fun r hr => ?_, ?_, fun r hr q hq hq' => ?_⟩
    · simpa using mem_keys_of_oldest (List.mem_toFinset.mp hr)
    · rw [List.toFinset_card_of_nodup (oldest_nodup hn), oldest_length, hcard]
    · exact older_of_oldest hn hw (List.mem_toFinset.mp hr) (by simpa using hq)
        (by simpa using hq')

end Evicts

section Run

variable {m : Nat} {p : CachePolicy}

theorem one_le_batch (hl : p.limit = some m) : 1 ≤ p.batch := by
  simp only [CachePolicy.batch, hl]
  omega

theorem exec_policy (c : Cache α) (op : CacheOp α ε) : (c.exec op).policy = c.policy := by
  cases op with
  | fetch k f =>
    simp only [exec, fetch]
    split
    · rfl
    · split
      · rfl
      · exact store_policy _ _ _
  | put k x => exact store_policy _ _ _
  | remove | clear | find | contains | size | stats => rfl

theorem exec_nodup {c : Cache α} (hn : c.keys.Nodup) (op : CacheOp α ε) :
    (c.exec op).keys.Nodup := by
  cases op with
  | fetch k f =>
    simp only [exec, fetch]
    split
    · show (c.touch k).keys.Nodup
      rw [touch_keys]
      exact hn
    · split
      · exact hn
      · exact store_nodup _ _ _ hn
  | put k x => exact store_nodup _ _ _ hn
  | remove k => exact (List.filter_sublist.map _).nodup hn
  | clear => exact List.nodup_nil
  | find | contains | size | stats => exact hn

theorem exec_step {c : Cache α} (hn : c.keys.Nodup) (hw : c.abs.Wf m)
    (hl : c.policy.limit = some m) (op : CacheOp α ε) :
    c.abs.Step m c.policy.batch op (c.exec op).abs := by
  cases op with
  | fetch k f =>
    simp only [Lru.Step, abs_val]
    rcases hv : c.view k with _ | ⟨x, t⟩
    · have hk : c.find? k = none := by simp [find?_eq, hv]
      cases hf : f k with
      | error e => rw [exec, fetch_miss_error c k hk hf]; rfl
      | ok x =>
        rw [exec, fetch_miss_ok c k hk hf]
        exact ⟨_, evicts_dropped hn hw hl k, store_abs _ k x⟩
    · have hk : c.find? k = some x := by simp [find?_eq, hv]
      rw [exec, fetch_hit c k hk]
      exact touch_abs c k x hv
  | put k x => exact ⟨_, evicts_dropped hn hw hl k, store_abs c k x⟩
  | remove k => exact remove_abs c k
  | clear => exact clear_abs c
  | find | contains | size | stats => rfl

/-- What every cache reached from an empty one with policy `p` and limit `m` keeps: the policy,
distinct keys, and an LRU map with times below its clock and at most `m` keys. -/
structure Reached (p : CachePolicy) (m : Nat) (c : Cache α) : Prop where
  policy_eq : c.policy = p
  nodup : c.keys.Nodup
  wf : c.abs.Wf m

theorem empty_reached : (Cache.empty p : Cache α).Reached p m where
  policy_eq := rfl
  nodup := List.nodup_nil
  wf := ⟨by simp [empty, keys], fun hv => by simp [empty, view, lookup] at hv,
    fun hv => by simp [empty, view, lookup] at hv⟩

theorem Reached.exec {c : Cache α} (h : c.Reached p m) (hm : 1 ≤ m) (hl : p.limit = some m)
    (op : CacheOp α ε) : (c.exec op).Reached p m where
  policy_eq := (exec_policy c op).trans h.policy_eq
  nodup := exec_nodup h.nodup op
  wf := by
    have hs := exec_step h.nodup h.wf (h.policy_eq ▸ hl) op
    rw [h.policy_eq] at hs
    exact h.wf.step hm (one_le_batch hl) hs

theorem Reached.run {c : Cache α} (h : c.Reached p m) (hm : 1 ≤ m) (hl : p.limit = some m)
    (ops : List (CacheOp α ε)) : (c.run ops).Reached p m := by
  induction ops generalizing c with
  | nil => exact h
  | cons op ops ih => exact ih (h.exec hm hl op)

/-- On every run from an empty cache with a limit `m ≥ 1`, whatever share it drops at once, the
cache holds an LRU map whose times are distinct and below its clock; each further operation is a
step of that map, and leaves at most `m` entries. -/
theorem bounded_cache_refines_lru {m : Nat} (hm : 1 ≤ m) (ratio : Float)
    (ops : List (CacheOp α ε)) (op : CacheOp α ε) :
    let p : CachePolicy := ⟨some m, ratio⟩
    let c := (Cache.empty p).run ops
    c.abs.Wf m ∧ c.abs.Step m p.batch op (c.exec op).abs ∧ (c.exec op).size ≤ m := by
  intro p c
  have hl : p.limit = some m := rfl
  have h : c.Reached p m := empty_reached.run hm hl ops
  have h' := h.exec hm hl op
  refine ⟨h.wf, ?_, ?_⟩
  · have hs := exec_step h.nodup h.wf (h.policy_eq ▸ hl) op
    rwa [h.policy_eq] at hs
  · rw [size_eq_card h'.nodup]
    exact h'.wf.card_le

theorem bounded_cache_refines_lru_two : 1 ≤ 2 ∧
    let p : CachePolicy := ⟨some 2, CachePolicy.defaultRatio⟩
    let c := (Cache.empty p).run
      [.put "a" 1, .put "b" 2, (.fetch "a" fun _ => .ok 0 : CacheOp Nat String)]
    let op : CacheOp Nat String := .put "c" 3
    c.abs.Wf 2 ∧ c.abs.Step 2 p.batch op (c.exec op).abs ∧ (c.exec op).size ≤ 2 :=
  ⟨by decide, bounded_cache_refines_lru (by decide) _ _ _⟩

end Run

end Cache

end TypedExpr
