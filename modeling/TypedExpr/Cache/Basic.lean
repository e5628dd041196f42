import TypedExpr.Binary64.Arith

/-! A cache of compiled forms keyed by their source text, with counters. Every use stamps the entry
with a fresh tick of the cache's clock: a lookup that finds the entry (a hit), and every insertion,
by compiling on a miss or by `put`. -/

namespace TypedExpr

/-- How many entries a cache keeps, and which share of them it drops when full. -/
structure CachePolicy where
  /-- At most this many entries, or no limit. -/
  limit : Option Nat
  /-- Share of `limit` dropped at once when the cache is full. -/
  ratio : Float

namespace CachePolicy

def defaultRatio : Float := Binary64.ofDecimal false 2 (-1)

def unbounded : CachePolicy := ⟨none, defaultRatio⟩

def bounded (n : Nat) : CachePolicy := ⟨some (max n 1), defaultRatio⟩

def withRatio (p : CachePolicy) (r : Float) : CachePolicy :=
  let one := Binary64.ofInt 1
  let r := match Binary64.classify r, Binary64.compare? r (Binary64.zero false) with
    | .finite _, some .gt => if Binary64.compare? r one = some .gt then one else r
    | _, _ => defaultRatio
  { p with ratio := r }

def batch (p : CachePolicy) : Nat :=
  match p.limit with
  | some m => max 1 (Binary64.ceilNat (Binary64.ofInt m * p.ratio))
  | none => 0

end CachePolicy

/-- Counters of a cache. -/
structure CacheStats where
  /-- Lookups served from the cache. -/
  hits : Nat
  /-- Lookups that had to compile. -/
  misses : Nat
  /-- Compilations that succeeded. -/
  compilations : Nat
  /-- Compilations that failed. -/
  failures : Nat
  /-- Entries dropped to respect the limit. -/
  evictions : Nat
  /-- Entries held now. -/
  entries : Nat

def CacheStats.hitRate (s : CacheStats) : Float :=
  if s.hits + s.misses = 0 then Binary64.zero false
  else Binary64.ofInt s.hits / Binary64.ofInt (s.hits + s.misses) * Binary64.ofInt 100

/-- A cached compiled form with the tick of its last use. -/
structure CacheEntry (α : Type) where
  key : String
  item : α
  stamp : Nat

/-- A cache of compiled forms of type `α`. -/
structure Cache (α : Type) where
  policy : CachePolicy
  entries : List (CacheEntry α) := []
  clock : Nat := 0
  hits : Nat := 0
  misses : Nat := 0
  compilations : Nat := 0
  failures : Nat := 0
  evictions : Nat := 0

namespace Cache

variable {α ε : Type}

def empty (policy : CachePolicy) : Cache α := { policy }

/-- The compiled form stored under a key. -/
def find? (c : Cache α) (key : String) : Option α :=
  (c.entries.find? (·.key == key)).map (·.item)

/-- Whether a key has a compiled form. -/
def contains (c : Cache α) (key : String) : Bool := c.entries.any (·.key == key)

/-- Number of entries. -/
def size (c : Cache α) : Nat := c.entries.length

def stats (c : Cache α) : CacheStats :=
  ⟨c.hits, c.misses, c.compilations, c.failures, c.evictions, c.size⟩

def oldest (c : Cache α) (n : Nat) : List String :=
  ((c.entries.mergeSort fun a b => a.stamp ≤ b.stamp).take n).map (·.key)

def evictIfFull (c : Cache α) : Cache α :=
  match c.policy.limit with
  | none => c
  | some m =>
    if c.size < m then c
    else
      let drop := c.oldest c.policy.batch
      { c with entries := c.entries.filter (fun e => !drop.contains e.key),
               evictions := c.evictions + drop.length }

def store (c : Cache α) (key : String) (item : α) : Cache α :=
  let c := if c.contains key then c else c.evictIfFull
  { c with entries := c.entries.filter (·.key != key) ++ [⟨key, item, c.clock⟩],
           clock := c.clock + 1 }

/-- Stores a compiled form under a key, replacing any previous one. -/
def put (c : Cache α) (key : String) (item : α) : Cache α := c.store key item

/-- Restamps the entry of a key with the next tick. -/
def touch (c : Cache α) (key : String) : Cache α :=
  { c with entries := c.entries.map (fun e => if e.key == key then { e with stamp := c.clock } else e),
           clock := c.clock + 1 }

/-- The compiled form of a key: from the cache when present (a hit), otherwise compiled and stored
(a miss). -/
def fetch (c : Cache α) (key : String) (compile : String → Except ε α) : Except ε α × Cache α :=
  match c.find? key with
  | some item => (.ok item, { c.touch key with hits := c.hits + 1 })
  | none =>
    let c := { c with misses := c.misses + 1 }
    match compile key with
    | .error err => (.error err, { c with failures := c.failures + 1 })
    | .ok item => (.ok item, { c with compilations := c.compilations + 1 }.store key item)

def remove (c : Cache α) (key : String) : Option α × Cache α :=
  (c.find? key, { c with entries := c.entries.filter (·.key != key) })

def clear (c : Cache α) : Cache α := { c with entries := [] }

end Cache

end TypedExpr
