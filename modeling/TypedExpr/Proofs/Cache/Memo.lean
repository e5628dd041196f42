import TypedExpr.Proofs.Cache.Refinement

/-! A cache memoises its compile function: a key it holds is answered without compiling, for as
long as it stays and nobody puts another item under it. -/

namespace TypedExpr

namespace Cache

variable {α ε : Type} {c : Cache α} {k : String} {x : α}

theorem touch_find? (c : Cache α) (j k : String) : (c.touch j).find? k = c.find? k := by
  rw [find?_eq, find?_eq, touch_view]
  split <;> cases c.view k <;> rfl

theorem store_find?_self (c : Cache α) (k : String) (x : α) : (c.store k x).find? k = some x := by
  simp [find?_eq, store_view]

theorem store_find?_of_ne {j : String} {y : α} (hjk : k ≠ j) (hk : k ∈ (c.store j y).keys) :
    (c.store j y).find? k = c.find? k := by
  have hd : k ∉ c.dropped j := (((mem_store_keys c j y k).mp hk).resolve_left hjk).2
  simp [find?_eq, store_view, hjk, hd]

theorem exec_find? (hx : c.find? k = some x) {op : CacheOp α ε} (hop : ∀ y, op ≠ .put k y)
    (hk : k ∈ (c.exec op).keys) : (c.exec op).find? k = some x := by
  cases op with
  | fetch j f =>
    rcases hj : c.find? j with _ | y
    · have hjk : k ≠ j := by rintro rfl; simp [hx] at hj
      cases hf : f j with
      | error e =>
        rw [exec, fetch_miss_error c j hj hf]
        exact hx
      | ok y =>
        rw [exec, fetch_miss_ok c j hj hf] at hk ⊢
        rw [store_find?_of_ne hjk hk]
        exact hx
    · rw [exec, fetch_hit c j hj]
      exact (touch_find? c j k).trans hx
  | put j y =>
    have hjk : k ≠ j := by rintro rfl; exact hop y rfl
    exact (store_find?_of_ne hjk hk).trans hx
  | remove j =>
    have hjk : k ≠ j := by
      rintro rfl
      simp [exec, remove, keys, mem_keys_filter (p := (· != k))] at hk
    show (c.remove j).2.find? k = some x
    rw [find?_eq, remove_view, if_neg hjk, ← find?_eq]
    exact hx
  | clear => simp [exec, clear, keys] at hk
  | find | contains | size | stats => exact hx

theorem run_find? (hx : c.find? k = some x) (ops : List (CacheOp α ε))
    (hput : ∀ y, .put k y ∉ ops) (hk : ∀ i ≤ ops.length, k ∈ (c.run (ops.take i)).keys) :
    (c.run ops).find? k = some x := by
  induction ops generalizing c with
  | nil => exact hx
  | cons op ops ih =>
    have hop : ∀ y, op ≠ .put k y := fun y h => hput y (h ▸ List.mem_cons_self)
    have hx' := exec_find? hx hop (hk 1 (by simp))
    refine ih hx' (fun y hy => hput y (List.mem_cons_of_mem _ hy)) fun i hi => ?_
    simpa [run] using hk (i + 1) (by simpa using hi)

/-- The memoisation contract of `fetch`. -/
theorem fetch_memoizes (c : Cache α) (k : String) (f : String → Except ε α) :
    (∀ x, c.find? k = some x → c.fetch k f = (.ok x, { c.touch k with hits := c.hits + 1 })) ∧
    (c.find? k = none → (c.fetch k f).1 = f k) ∧
    (∀ e, c.find? k = none → f k = .error e →
      c.fetch k f = (.error e, { c with misses := c.misses + 1, failures := c.failures + 1 })) ∧
    (∀ x, (c.fetch k f).1 = .ok x → (c.fetch k f).2.find? k = some x ∧
      ∀ ops : List (CacheOp α ε), (∀ y, .put k y ∉ ops) →
        (∀ i ≤ ops.length, k ∈ ((c.fetch k f).2.run (ops.take i)).keys) →
        let c' := (c.fetch k f).2.run ops
        c'.find? k = some x ∧ ∀ g : String → Except ε α,
          c'.fetch k g = (.ok x, { c'.touch k with hits := c'.hits + 1 })) := by
  refine ⟨fun x hx => fetch_hit c k hx f, fun hk => ?_, fun e hk hf => fetch_miss_error c k hk hf,
    fun x hok => ?_⟩
  · cases hf : f k with
    | error e => rw [fetch_miss_error c k hk hf]
    | ok y => rw [fetch_miss_ok c k hk hf]
  -- the key holds the answer right after the lookup, by a hit or by storing
  have hnow : (c.fetch k f).2.find? k = some x := by
    rcases hc : c.find? k with _ | y
    · cases hf : f k with
      | error e => simp [fetch_miss_error c k hc hf] at hok
      | ok y =>
        rw [fetch_miss_ok c k hc hf] at hok ⊢
        cases hok
        exact store_find?_self _ k _
    · rw [fetch_hit c k hc] at hok ⊢
      cases hok
      exact (touch_find? c k k).trans hc
  refine ⟨hnow, fun ops hput hk => ?_⟩
  have hlater := run_find? hnow ops hput hk
  exact ⟨hlater, fetch_hit _ k hlater⟩

theorem fetch_memoizes_reuse :
    let f : String → Except String Nat := fun _ => .ok 1
    let ops : List (CacheOp Nat String) :=
      [.find "a", .fetch "b" (fun _ => .error "bad"), .put "b" 2]
    (((Cache.empty .unbounded : Cache Nat).fetch "a" f).2.run ops).find? "a" = some 1 :=
  (((fetch_memoizes _ "a" _).2.2.2 1 rfl).2 _ (by simp) (by decide)).1

section Faithful

/-! A cache filled only by lookups with one compile function holds, under every key, what that
function gives for the key; a lookup on such a cache then answers as the function does. -/

def Faithful (c : Cache α) (f : String → Except ε α) : Prop :=
  ∀ e ∈ c.entries, f e.key = .ok e.item

variable {f : String → Except ε α}

theorem faithful_empty (p : CachePolicy) : (Cache.empty p : Cache α).Faithful f := by
  simp [Faithful, empty]

theorem Faithful.find? (hc : c.Faithful f) (h : c.find? k = some x) : f k = .ok x := by
  rw [find?_eq, Option.map_eq_some_iff] at h
  obtain ⟨⟨y, t⟩, hv, rfl⟩ := h
  exact hc _ (mem_of_lookup hv)

theorem Faithful.touch (hc : c.Faithful f) (j : String) : (c.touch j).Faithful f := by
  intro e he
  obtain ⟨e0, he0, rfl⟩ := List.mem_map.mp he
  by_cases h : e0.key = j <;> simpa [h] using hc e0 he0

theorem Faithful.store (hc : c.Faithful f) (hx : f k = .ok x) : (c.store k x).Faithful f := by
  intro e he
  rw [store_entries, List.mem_append, List.mem_singleton] at he
  rcases he with he | rfl
  · exact hc e (List.filter_sublist.trans List.filter_sublist |>.subset he)
  · exact hx

theorem Faithful.remove (hc : c.Faithful f) (j : String) : (c.remove j).2.Faithful f :=
  fun e he => hc e (List.mem_filter.mp he).1

theorem Faithful.clear (c : Cache α) : c.clear.Faithful f := by
  simp [Faithful, Cache.clear]

theorem Faithful.fetch (hc : c.Faithful f) (k : String) :
    (c.fetch k f).1 = f k ∧ (c.fetch k f).2.Faithful f := by
  rcases h : c.find? k with _ | x
  · cases hf : f k with
    | error e =>
      rw [fetch_miss_error c k h hf]
      exact ⟨rfl, hc⟩
    | ok x =>
      rw [fetch_miss_ok c k h hf]
      exact ⟨rfl, Faithful.store (c := { c with misses := _, compilations := _ }) hc hf⟩
  · rw [fetch_hit c k h]
    exact ⟨(hc.find? h).symm, hc.touch k⟩

end Faithful

end Cache

end TypedExpr
