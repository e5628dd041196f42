import TypedExpr.Cache.Basic

/-! The entries of a cache under each of its operations. `view` reads the item and stamp stored
under a key (the first entry of that key); for every operation one lemma says how it changes the
entries and the view, so later proofs never unfold the operations. -/

namespace TypedExpr

/-- The operations a caller makes on a cache. -/
inductive CacheOp (α ε : Type) where
  | fetch (key : String) (compile : String → Except ε α)
  | put (key : String) (item : α)
  | find (key : String)
  | contains (key : String)
  | remove (key : String)
  | clear
  | size
  | stats

namespace Cache

variable {α ε : Type}

def exec (c : Cache α) : CacheOp α ε → Cache α
  | .fetch k f => (c.fetch k f).2
  | .put k x => c.put k x
  | .remove k => (c.remove k).2
  | .clear => c.clear
  | .find _ | .contains _ | .size | .stats => c

/-- The cache after operations made in turn. -/
def run (c : Cache α) : List (CacheOp α ε) → Cache α
  | [] => c
  | op :: ops => (c.exec op).run ops

theorem run_append (c : Cache α) (ops more : List (CacheOp α ε)) :
    c.run (ops ++ more) = (c.run ops).run more := by
  induction ops generalizing c with
  | nil => rfl
  | cons op ops ih => exact ih (c.exec op)

def lookup (l : List (CacheEntry α)) (k : String) : Option (α × Nat) :=
  (l.find? (·.key == k)).map fun e => (e.item, e.stamp)

def view (c : Cache α) (k : String) : Option (α × Nat) := lookup c.entries k

/-- The keys held, in the order of the entries. -/
def keys (c : Cache α) : List String := c.entries.map (·.key)

section Lookup

variable {l : List (CacheEntry α)} {k j : String}

theorem lookup_eq_none_iff : lookup l k = none ↔ k ∉ l.map (·.key) := by
  simp [lookup, List.find?_eq_none]

theorem lookup_of_mem (hn : (l.map (·.key)).Nodup) {e : CacheEntry α} (he : e ∈ l) :
    lookup l e.key = some (e.item, e.stamp) := by
  induction l with
  | nil => cases he
  | cons a l ih =>
    rw [List.map_cons, List.nodup_cons] at hn
    rcases List.mem_cons.mp he with rfl | he
    · simp [lookup]
    · have hne : a.key ≠ e.key := fun h => hn.1 (h ▸ List.mem_map_of_mem he)
      simpa [lookup, hne] using ih hn.2 he

theorem mem_of_lookup {x : α} {t : Nat} (h : lookup l k = some (x, t)) : ⟨k, x, t⟩ ∈ l := by
  obtain ⟨e, he, hx⟩ := Option.map_eq_some_iff.mp h
  have hk := List.find?_some he
  simp only [beq_iff_eq] at hk
  simp only [Prod.mk.injEq] at hx
  obtain ⟨rfl, rfl⟩ := hx
  rw [← hk]
  exact List.mem_of_find?_eq_some he

theorem lookup_filter (p : String → Bool) :
    lookup (l.filter fun e => p e.key) k = if p k then lookup l k else none := by
  induction l with
  | nil => simp [lookup]
  | cons a l ih =>
    by_cases ha : a.key = k
    · subst ha
      by_cases hp : p a.key
      · simp [lookup, hp]
      · simpa [lookup, List.filter_cons, hp] using ih
    · have hb : (a.key == k) = false := by simpa using ha
      by_cases hp : p a.key <;> simpa [lookup, List.filter_cons, hp, hb] using ih

theorem mem_keys_filter {p : String → Bool} :
    j ∈ (l.filter fun e => p e.key).map (·.key) ↔ j ∈ l.map (·.key) ∧ p j := by
  simp only [List.mem_map, List.mem_filter]
  constructor
  · rintro ⟨e, ⟨he, hp⟩, rfl⟩
    exact ⟨⟨e, he, rfl⟩, hp⟩
  · rintro ⟨⟨e, he, rfl⟩, hp⟩
    exact ⟨e, ⟨he, hp⟩, rfl⟩

theorem lookup_append_single {k' : String} {x : α} {t : Nat} :
    lookup (l ++ [⟨k', x, t⟩]) k = (lookup l k).or (if k' = k then some (x, t) else none) := by
  simp only [lookup, List.find?_append]
  cases l.find? (·.key == k) <;> by_cases h : k' = k <;> simp [h]

theorem lookup_restamp (k' : String) (t : Nat) :
    lookup (l.map fun e => if e.key == k' then { e with stamp := t } else e) k =
      if k = k' then (lookup l k).map fun p => (p.1, t) else lookup l k := by
  induction l with
  | nil => simp [lookup]
  | cons a l ih =>
    obtain ⟨j, x, s⟩ := a
    by_cases hj : j = k
    · subst hj
      by_cases h' : j = k' <;> simp [lookup, h']
    · by_cases h' : j = k'
      · subst h'
        simpa [lookup, hj] using ih
      · simpa [lookup, hj, h'] using ih

end Lookup

theorem find?_eq (c : Cache α) (k : String) : c.find? k = (c.view k).map (·.1) := by
  simp only [find?, view, lookup, Option.map_map]
  rfl

theorem contains_iff (c : Cache α) (k : String) : c.contains k = true ↔ k ∈ c.keys := by
  simp [contains, keys]

theorem view_eq_none_iff (c : Cache α) (k : String) : c.view k = none ↔ k ∉ c.keys :=
  lookup_eq_none_iff

theorem find?_eq_none_iff (c : Cache α) (k : String) : c.find? k = none ↔ c.contains k = false := by
  rw [find?_eq, Option.map_eq_none_iff, view_eq_none_iff, ← Bool.not_eq_true, contains_iff]

def evicted (c : Cache α) : List String :=
  match c.policy.limit with
  | none => []
  | some m => if c.size < m then [] else c.oldest c.policy.batch

def dropped (c : Cache α) (k : String) : List String :=
  if c.contains k then [] else c.evicted

section Operations

variable (c : Cache α) (k : String)

theorem evictIfFull_eq :
    c.evictIfFull =
      { c with
        entries := c.entries.filter (fun e => !c.evicted.contains e.key)
        evictions := c.evictions + c.evicted.length } := by
  -- dropping no keys filters nothing out
  have hf : c.entries.filter (fun _ => true) = c.entries := List.filter_eq_self.mpr fun _ _ => rfl
  unfold evictIfFull evicted
  rcases hl : c.policy.limit with _ | m
  · simp [hf]
  · by_cases hs : c.size < m <;> simp [hs, hf]

theorem touch_view (j : String) :
    (c.touch k).view j = if j = k then (c.view j).map fun p => (p.1, c.clock) else c.view j :=
  lookup_restamp k c.clock

theorem touch_keys : (c.touch k).keys = c.keys := by
  simp only [touch, keys, List.map_map]
  congr 1
  funext e
  by_cases h : e.key = k <;> simp [h]

theorem store_entries (x : α) : (c.store k x).entries =
    ((c.entries.filter fun e => !(c.dropped k).contains e.key).filter fun e => e.key != k) ++
      [⟨k, x, c.clock⟩] := by
  unfold store dropped
  by_cases h : c.contains k
  · simp [h]
  · simp [h, evictIfFull_eq]

theorem store_view (x : α) (j : String) :
    (c.store k x).view j =
      if j = k then some (x, c.clock) else if (c.dropped k).contains j then none else c.view j := by
  rw [view, store_entries, lookup_append_single, lookup_filter (· != k),
    lookup_filter fun j => !(c.dropped k).contains j]
  by_cases hj : j = k
  · simp [hj]
  · simp [hj, Ne.symm hj, view]

theorem store_clock (x : α) : (c.store k x).clock = c.clock + 1 := by
  unfold store
  split <;> simp [evictIfFull_eq]

theorem store_policy (x : α) : (c.store k x).policy = c.policy := by
  unfold store
  split <;> simp [evictIfFull_eq]

theorem store_evictions (x : α) : (c.store k x).evictions = c.evictions + (c.dropped k).length := by
  unfold store dropped
  split <;> simp [*, evictIfFull_eq]

theorem fetch_hit {x : α} (h : c.find? k = some x) (f : String → Except ε α) :
    c.fetch k f = (.ok x, { c.touch k with hits := c.hits + 1 }) := by
  simp [fetch, h]

theorem fetch_miss_error {f : String → Except ε α} {err : ε} (h : c.find? k = none)
    (hf : f k = .error err) :
    c.fetch k f = (.error err, { c with misses := c.misses + 1, failures := c.failures + 1 }) := by
  simp [fetch, h, hf]

theorem fetch_miss_ok {f : String → Except ε α} {x : α} (h : c.find? k = none)
    (hf : f k = .ok x) :
    c.fetch k f =
      (.ok x, { c with misses := c.misses + 1, compilations := c.compilations + 1 }.store k x) := by
  simp [fetch, h, hf]

theorem remove_view (j : String) : (c.remove k).2.view j = if j = k then none else c.view j := by
  simp only [remove, view]
  rw [lookup_filter (· != k)]
  by_cases h : j = k <;> simp [h]

end Operations

end Cache

end TypedExpr
