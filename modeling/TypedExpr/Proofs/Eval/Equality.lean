import TypedExpr.Proofs.Value.Inferred

/-! The laws of `==`. Equality of values is symmetric (`Value.equals_comm`) and reflexive on values
without a NaN (`Value.equals_self`). -/

namespace TypedExpr

namespace Binary64

theorem Finite.compare_swap (a b : Finite) : b.compare a = (a.compare b).swap :=
  (Int.compare_swap _ _).symm

theorem compare?_swap (x y : Float) : compare? y x = (compare? x y).map Ordering.swap := by
  unfold compare?
  cases classify x with
  | nan => cases classify y <;> rfl
  | inf a =>
    cases classify y with
    | nan => rfl
    | inf b => cases a <;> cases b <;> rfl
    | finite g => cases a <;> rfl
  | finite f =>
    cases classify y with
    | nan => rfl
    | inf b => cases b <;> rfl
    | finite g => exact congrArg some (Finite.compare_swap f g)

theorem eq_comm (x y : Float) : eq y x = eq x y := by
  unfold eq
  rw [compare?_swap]
  cases compare? x y with
  | none => rfl
  | some o => cases o <;> rfl

theorem eq_self {x : Float} (h : classify x ≠ .nan) : eq x x = true := by
  unfold eq compare?
  cases hx : classify x with
  | nan => exact absurd hx h
  | inf a => simp
  | finite f => simp [Finite.compare]

end Binary64

namespace Decimal

theorem cmp_swap (a b : Decimal) : b.cmp a = (a.cmp b).swap :=
  (Int.compare_swap _ _).symm

theorem eqv_comm (a b : Decimal) : b.eqv a = a.eqv b := by
  unfold eqv
  rw [cmp_swap]
  cases a.cmp b <;> rfl

theorem eqv_self (a : Decimal) : a.eqv a = true := by
  simp [eqv, cmp]

end Decimal

namespace Promoted

def swap : Promoted → Promoted
  | .int a b => .int b a
  | .dec a b => .dec b a
  | .float a b => .float b a

def equal : Promoted → Bool
  | .int a b => a == b
  | .dec a b => a.eqv b
  | .float a b => Binary64.eq a b

theorem equal_swap (p : Promoted) : p.swap.equal = p.equal := by
  cases p with
  | int a b => exact Bool.beq_comm
  | dec a b => exact Decimal.eqv_comm a b
  | float a b => exact Binary64.eq_comm a b

end Promoted

namespace Eval

variable {limit d : Nat} {sc : Scope} {pats : Patterns}

theorem lift_run (r : Except Fault Value) (s : Patterns) : (lift r).run.run s = (r, s) := by
  cases r <;> rfl

theorem expr_var {n : String} {v : Value} (hd : d ≤ limit) (h : sc.var? n = some v) :
    (expr limit sc d (.var n)).run.run pats = (.ok v, pats) := by
  have hd' : ¬ d > limit := by omega
  simp [expr, hd', h]
  rfl

theorem expr_lit (hd : d ≤ limit) (l : Literal) :
    (expr limit sc d (.lit l)).run.run pats = (.ok l.value, pats) := by
  have hd' : ¬ d > limit := by omega
  simp [expr, hd']
  rfl

theorem expr_binary {op : BinOp} {l r : Expr} {a b : Value} (hd : d ≤ limit) (hop : op ≠ .and)
    (hop' : op ≠ .or) (hl : (expr limit sc (d + 1) l).run.run pats = (.ok a, pats))
    (hr : (expr limit sc (d + 1) r).run.run pats = (.ok b, pats)) :
    (expr limit sc d (.binary op l r)).run.run pats = (Value.binary op a b, pats) := by
  have hd' : ¬ d > limit := by omega
  rw [expr, if_neg hd']
  rw [run_bind_ok (by rw [hl]), hl]
  simp only [hop, hop', false_and, if_false]
  rw [run_bind_ok (by rw [hr]), hr, lift_run]

theorem expr_call_var {m nc nx : String} {c x : Value} (hd : d + 1 ≤ limit)
    (hc : sc.var? nc = some c) (hx : sc.var? nx = some x) :
    (expr limit sc d (.call (some (.var nc)) m [.var nx])).run.run pats =
      Value.call pats c m [x] := by
  have hd' : ¬ d > limit := by omega
  have hd1 : ¬ d + 1 > limit := by omega
  simp [expr, receiver, exprs, hd', hd1, hc, hx, withPatterns_run]

end Eval

namespace Value

mutual
def everywhere (p : Value → Bool) : Value → Bool
  | .list items => p (.list items) && everywhereItems p items
  | .set items => p (.set items) && everywhereItems p items
  | .map es => p (.map es) && everywhereEntries p es
  | v => p v

def everywhereItems (p : Value → Bool) : List Value → Bool
  | [] => true
  | v :: vs => everywhere p v && everywhereItems p vs

def everywhereEntries (p : Value → Bool) : List (String × Value) → Bool
  | [] => true
  | (_, v) :: es => everywhere p v && everywhereEntries p es
end

def distinctKeys : Value → Bool
  | .map es => decide (es.map Prod.fst).Nodup
  | _ => true

def notNaN : Value → Bool
  | .float x => Binary64.classify x != .nan
  | _ => true

/-- Every map inside the value holds each key once. -/
abbrev Keyed (v : Value) : Prop := everywhere distinctKeys v = true

/-- No double inside the value is a NaN. -/
abbrev NaNFree (v : Value) : Prop := everywhere notNaN v = true

def children : Value → List Value
  | .list items | .set items => items
  | .map es => es.map Prod.snd
  | _ => []

section Everywhere

variable {p : Value → Bool}

theorem everywhereItems_iff {items : List Value} :
    everywhereItems p items = true ↔ ∀ v ∈ items, everywhere p v = true := by
  induction items with
  | nil => simp [everywhereItems]
  | cons v vs ih => simp [everywhereItems, ih]

theorem everywhereEntries_iff {es : List (String × Value)} :
    everywhereEntries p es = true ↔ ∀ v ∈ es.map Prod.snd, everywhere p v = true := by
  induction es with
  | nil => simp [everywhereEntries]
  | cons e es ih =>
    obtain ⟨k, v⟩ := e
    simp [everywhereEntries, ih]

theorem everywhere_iff {v : Value} :
    everywhere p v = true ↔ p v = true ∧ ∀ w ∈ v.children, everywhere p w = true := by
  cases v <;> simp [everywhere, children, everywhereItems_iff, everywhereEntries_iff]

theorem everywhere_self {v : Value} (h : everywhere p v = true) : p v = true :=
  (everywhere_iff.mp h).1

theorem everywhere_children {v : Value} (h : everywhere p v = true) :
    ∀ w ∈ v.children, everywhere p w = true :=
  (everywhere_iff.mp h).2

end Everywhere

theorem Keyed.nodup {es : List (String × Value)} (h : Keyed (.map es)) :
    (es.map Prod.fst).Nodup := by
  simpa [distinctKeys] using everywhere_self h

/-! ### Lookup in a map with distinct keys -/

theorem mem_of_lookup {es : List (String × Value)} {k : String} {v : Value}
    (h : lookup k es = some v) : (k, v) ∈ es := by
  induction es with
  | nil => cases h
  | cons e es ih =>
    obtain ⟨k', v'⟩ := e
    simp only [lookup] at h
    split at h
    · cases h
      subst k'
      exact .head _
    · exact .tail _ (ih h)

theorem lookup_of_mem {es : List (String × Value)} (hk : (es.map Prod.fst).Nodup)
    {e : String × Value} (he : e ∈ es) : lookup e.1 es = some e.2 := by
  induction es with
  | nil => cases he
  | cons f es ih =>
    obtain ⟨k, v⟩ := f
    rw [List.map_cons, List.nodup_cons] at hk
    rcases List.mem_cons.mp he with rfl | he
    · simp [lookup]
    · -- the key of `e` comes later, so it is not the head's
      have hne : k ≠ e.1 := fun h => hk.1 (List.mem_map.mpr ⟨e, he, h.symm⟩)
      simp only [lookup, hne, if_false]
      exact ih hk.2 he

theorem mem_insertAt {es : List (String × Value)} {k : String} {v : Value} {e : String × Value}
    (h : e ∈ insertAt k v es) : e = (k, v) ∨ e ∈ es := by
  induction es with
  | nil => simpa [insertAt] using h
  | cons f es ih =>
    obtain ⟨k', v'⟩ := f
    simp only [insertAt] at h
    split at h
    · rcases List.mem_cons.mp h with rfl | h
      · exact .inl rfl
      · exact .inr (.tail _ h)
    · rcases List.mem_cons.mp h with rfl | h
      · exact .inr (.head _)
      · exact (ih h).imp_right (.tail _)

theorem mem_keys_insertAt {es : List (String × Value)} {k j : String} {v : Value}
    (h : j ∈ (insertAt k v es).map Prod.fst) : j = k ∨ j ∈ es.map Prod.fst := by
  obtain ⟨e, he, rfl⟩ := List.mem_map.mp h
  rcases mem_insertAt he with rfl | he
  · exact .inl rfl
  · exact .inr (List.mem_map_of_mem he)

theorem nodup_insertAt {es : List (String × Value)} (h : (es.map Prod.fst).Nodup) (k : String)
    (v : Value) : ((insertAt k v es).map Prod.fst).Nodup := by
  induction es with
  | nil => simp [insertAt]
  | cons e es ih =>
    obtain ⟨k', v'⟩ := e
    rw [List.map_cons, List.nodup_cons] at h
    simp only [insertAt]
    split
    · subst k'
      simpa using h
    · rename_i hne
      rw [List.map_cons, List.nodup_cons]
      refine ⟨fun hk => ?_, ih h.2⟩
      rcases mem_keys_insertAt hk with hk | hk
      · exact hne hk
      · exact h.1 hk

/-! ### Unfolding `==` -/

theorem equals_of_promote {l r : Value} {p : Promoted} (h : promote l r = some p) :
    equals l r = p.equal := by
  unfold equals
  rw [h]
  cases p <;> rfl

theorem promote_swap (l r : Value) : promote r l = (promote l r).map Promoted.swap := by
  cases l <;> cases r <;> rfl

@[simp] theorem equals_list (a b : List Value) :
    equals (.list a) (.list b) = (a.length == b.length && equalsItems a b) := rfl

@[simp] theorem equals_set (a b : List Value) :
    equals (.set a) (.set b) = (a.length == b.length && equalsItems a b) := rfl

@[simp] theorem equals_map (a b : List (String × Value)) :
    equals (.map a) (.map b) = (a.length == b.length && equalsEntries a b) := rfl

theorem equalsEntries_iff {a b : List (String × Value)} :
    equalsEntries a b = true ↔
      ∀ e ∈ a, ∃ w, lookup e.1 b = some w ∧ equals e.2 w = true := by
  induction a with
  | nil => simp [equalsEntries]
  | cons e a ih =>
    obtain ⟨k, v⟩ := e
    cases h : lookup k b <;> simp [equalsEntries, h, ih]

/-! ### Symmetry -/

theorem equalsItems_comm {a b : List Value}
    (h : ∀ v ∈ a, ∀ w ∈ b, equals w v = equals v w) :
    equalsItems b a = equalsItems a b := by
  induction a generalizing b with
  | nil => cases b <;> rfl
  | cons v vs ih =>
    cases b with
    | nil => rfl
    | cons w ws =>
      simp only [equalsItems]
      rw [h v (.head _) w (.head _), ih fun v' hv' w' hw' => h v' (.tail _ hv') w' (.tail _ hw')]

theorem equalsEntries_flip {a b : List (String × Value)} (ha : (a.map Prod.fst).Nodup)
    (hb : (b.map Prod.fst).Nodup) (hlen : a.length = b.length)
    (h : ∀ e ∈ a, ∀ f ∈ b, equals f.2 e.2 = equals e.2 f.2)
    (hab : equalsEntries a b = true) : equalsEntries b a = true := by
  rw [equalsEntries_iff] at hab ⊢
  have hsub : a.map Prod.fst ⊆ b.map Prod.fst := by
    intro k hk
    obtain ⟨e, he, rfl⟩ := List.mem_map.mp hk
    obtain ⟨w, hw, -⟩ := hab e he
    exact List.mem_map.mpr ⟨(e.1, w), mem_of_lookup hw, rfl⟩
  have hperm := (ha.subperm hsub).perm_of_length_le (by simp [hlen])
  intro f hf
  obtain ⟨e, he, hkey⟩ := List.mem_map.mp (hperm.mem_iff.mpr (List.mem_map_of_mem hf))
  obtain ⟨w, hw, hew⟩ := hab e he
  have hwf : w = f.2 := by
    rw [hkey, lookup_of_mem hb hf] at hw
    exact (Option.some.inj hw).symm
  refine ⟨e.2, hkey ▸ lookup_of_mem ha he, ?_⟩
  rw [h e he f hf, ← hwf]
  exact hew

theorem equalsEntries_comm {a b : List (String × Value)} (ha : (a.map Prod.fst).Nodup)
    (hb : (b.map Prod.fst).Nodup) (hlen : a.length = b.length)
    (h : ∀ e ∈ a, ∀ f ∈ b, equals f.2 e.2 = equals e.2 f.2) :
    equalsEntries b a = equalsEntries a b :=
  Bool.eq_iff_iff.mpr
    ⟨equalsEntries_flip hb ha hlen.symm (fun f hf e he => (h e he f hf).symm),
      equalsEntries_flip ha hb hlen h⟩

theorem equals_comm_of {l r : Value} (hl : l.Keyed) (hr : r.Keyed)
    (ih : ∀ v ∈ l.children, ∀ w, w.Keyed → equals w v = equals v w) :
    equals r l = equals l r := by
  cases hp : promote l r with
  | some p =>
    -- two numbers: the promoted pair the other way round
    have hq : promote r l = some p.swap := by rw [promote_swap, hp]; rfl
    rw [equals_of_promote hp, equals_of_promote hq, Promoted.equal_swap]
  | none =>
    have items : ∀ a b, l.children = a → r.children = b →
        equalsItems b a = equalsItems a b := by
      rintro a b rfl rfl
      exact equalsItems_comm fun v hv w hw => ih v hv w (everywhere_children hr w hw)
    cases l <;> cases r
    all_goals first
      | rfl
      | exact Bool.beq_comm
      | exact absurd hp (Option.some_ne_none _)
      | skip
    case list.list a b => rw [equals_list, equals_list, items a b rfl rfl, Bool.beq_comm]
    case set.set a b => rw [equals_set, equals_set, items a b rfl rfl, Bool.beq_comm]
    case map.map a b =>
      rw [equals_map, equals_map]
      by_cases hlen : a.length = b.length
      · rw [equalsEntries_comm hl.nodup hr.nodup hlen fun e he f hf =>
          ih e.2 (List.mem_map_of_mem he) f.2
            (everywhere_children hr f.2 (List.mem_map_of_mem hf)), Bool.beq_comm]
      · rw [beq_eq_false_iff_ne.mpr hlen, beq_eq_false_iff_ne.mpr (Ne.symm hlen)]
        rfl

theorem equals_comm {l r : Value} (hl : l.Keyed) (hr : r.Keyed) : equals r l = equals l r := by
  -- induction on the first value; its children are compared with arbitrary values
  induction l using Value.induction generalizing r with
  | list a ih | set a ih =>
    exact equals_comm_of hl hr fun v hv w hw => ih v hv (everywhere_children hl v hv) hw
  | map es ih =>
    refine equals_comm_of hl hr fun v hv w hw => ?_
    obtain ⟨e, he, rfl⟩ := List.mem_map.mp hv
    exact ih e he (everywhere_children hl e.2 hv) hw
  | _ => exact equals_comm_of hl hr (by simp [children])

/-! ### Reflexivity -/

theorem equalsItems_self {a : List Value} (h : ∀ v ∈ a, equals v v = true) :
    equalsItems a a = true := by
  induction a with
  | nil => rfl
  | cons v vs ih =>
    simp only [equalsItems, h v (.head _), ih fun w hw => h w (.tail _ hw), Bool.and_self]

theorem equalsEntries_self {es : List (String × Value)} (hk : (es.map Prod.fst).Nodup)
    (h : ∀ e ∈ es, equals e.2 e.2 = true) : equalsEntries es es = true :=
  equalsEntries_iff.mpr fun e he => ⟨e.2, lookup_of_mem hk he, h e he⟩

theorem equals_self {v : Value} (hk : v.Keyed) (hn : v.NaNFree) : equals v v = true := by
  induction v using Value.induction with
  | int n => exact beq_self_eq_true n
  | float x => exact Binary64.eq_self (by simpa [notNaN] using everywhere_self hn)
  | dec d => exact Decimal.eqv_self d
  | bool b | str b | char b | date b | dateTime b => exact beq_self_eq_true b
  | null => rfl
  | list a ih | set a ih =>
    simp only [equals_list, equals_set, beq_self_eq_true, Bool.true_and]
    exact equalsItems_self fun v hv =>
      ih v hv (everywhere_children hk v hv) (everywhere_children hn v hv)
  | map es ih =>
    simp only [equals_map, beq_self_eq_true, Bool.true_and]
    refine equalsEntries_self hk.nodup fun e he => ?_
    have hv : e.2 ∈ (Value.map es).children := List.mem_map_of_mem he
    exact ih e he (everywhere_children hk e.2 hv) (everywhere_children hn e.2 hv)

/-! ### Membership -/

theorem any_equals_comm {x : Value} {items : List Value} (hx : x.Keyed)
    (hi : ∀ v ∈ items, v.Keyed) : items.any (fun v => equals v x) = items.any (equals x) := by
  induction items with
  | nil => rfl
  | cons v vs ih =>
    simp only [List.any_cons, equals_comm hx (hi v (.head _)),
      ih fun w hw => hi w (.tail _ hw)]

theorem compareWith_ge_zero (a : Int64) :
    compareWith .ge (.int a) (.int 0) = .ok (.bool (decide (0 ≤ a.toInt))) := by
  have hb : (compare a.toInt 0 != .lt) = decide (0 ≤ a.toInt) := by
    apply Bool.eq_iff_iff.mpr
    rw [bne_iff_ne, ne_eq, compare_lt_iff_lt, decide_eq_true_iff, not_lt]
  simp only [compareWith, order, promote, Int64.toInt_zero]
  rw [← hb]
  rfl

theorem call_indexOf {c : Value} {items : List Value} (hcoll : c = .list items ∨ c = .set items)
    (x : Value) (pats : Patterns) :
    call pats c "indexOf" [x] =
      (.ok ((items.findIdx? fun v => equals v x).elim (.int (-1)) ofCount), pats) := by
  rcases hcoll with rfl | rfl <;> cases h : items.findIdx? fun v => equals v x <;>
    simp [call, commonMethod, collectionMethod, size?, arity, arg0, h]

theorem binary_ge_position (o : Option Nat) :
    binary .ge (o.elim (.int (-1)) ofCount) (.int 0) = .ok (.bool o.isSome) := by
  cases o with
  | none => exact (compareWith_ge_zero (-1)).trans rfl
  | some i =>
    -- a count is saturated below the largest integer, so it reads back as itself
    have h : (Int64.ofNat (min i (2 ^ 63 - 1))).toInt = ((min i (2 ^ 63 - 1) : Nat) : Int) :=
      Int64.toInt_ofNat_of_lt (by omega)
    show compareWith .ge (ofCount i) (.int 0) = _
    rw [ofCount, compareWith_ge_zero, h]
    simp

theorem membership_agrees {limit : Nat} (hlim : 2 ≤ limit) {sc : Scope} {nx nc : String}
    {x c : Value} {items : List Value} (hx : sc.var? nx = some x) (hc : sc.var? nc = some c)
    (hcoll : c = .list items ∨ c = .set items) (hkx : x.Keyed) (hkc : c.Keyed)
    (pats : Patterns) :
    (Expr.binary .mem (.var nx) (.var nc)).eval limit sc pats =
        (.ok (.bool (items.any (equals x))), pats) ∧
      (Expr.call (some (.var nc)) "contains" [.var nx]).eval limit sc pats =
        (.ok (.bool (items.any (equals x))), pats) ∧
      (Expr.binary .ge (.call (some (.var nc)) "indexOf" [.var nx]) (.lit (.int 0))).eval
        limit sc pats = (.ok (.bool (items.any (equals x))), pats) := by
  have hi : ∀ v ∈ items, v.Keyed := by
    rcases hcoll with rfl | rfl <;> exact everywhere_children hkc
  -- the methods compare each element with the value, the operator the value with each element
  have hany := any_equals_comm hkx hi
  have hmem : binary .mem x c = .ok (.bool (items.any (equals x))) := by
    rcases hcoll with rfl | rfl <;> rfl
  have hcontains :
      call pats c "contains" [x] = (.ok (.bool (items.any fun v => equals v x)), pats) := by
    rcases hcoll with rfl | rfl <;> rfl
  have hfound := @List.findIdx?_isSome _ items fun v => equals v x
  have hvar {n : String} {v : Value} (h : sc.var? n = some v) :
      (Eval.expr limit sc 1 (.var n)).run.run pats = (.ok v, pats) :=
    Eval.expr_var (by omega) h
  have hzero : (Eval.expr limit sc 1 (.lit (.int 0))).run.run pats = (.ok (.int 0), pats) :=
    Eval.expr_lit (by omega) _
  refine ⟨?_, ?_, ?_⟩
  · rw [Expr.eval, Eval.expr_binary (Nat.zero_le _) (by decide) (by decide) (hvar hx) (hvar hc),
      hmem]
  · rw [Expr.eval, Eval.expr_call_var (by omega) hc hx, hcontains, hany]
  · have hindex := (Eval.expr_call_var (d := 1) (by omega) hc hx).trans (call_indexOf hcoll x pats)
    rw [Expr.eval, Eval.expr_binary (Nat.zero_le _) (by decide) (by decide) hindex hzero,
      binary_ge_position, hfound, hany]

end Value

/-- A value whose maps, at every depth, hold each key once, as insertion-ordered maps do. -/
structure KeyedValue where
  val : Value
  keyed : val.Keyed

attribute [coe] KeyedValue.val

instance : Coe KeyedValue Value := ⟨KeyedValue.val⟩

/-- `==` is symmetric, and reflexive without a NaN, on keyed values; so on a list or set `x in c`,
`c.contains(x)` and `c.indexOf(x) >= 0` give one boolean. -/
theorem equality_symmetric_membership_agrees :
    (∀ a b : KeyedValue, Value.equals a b = Value.equals b a) ∧
    (∀ v : KeyedValue, v.val.NaNFree → Value.equals v v = true) ∧
    ∀ (limit : Nat) (sc : Scope) (nx nc : String) (x c : KeyedValue) (items : List Value)
      (pats : Patterns), 2 ≤ limit → sc.var? nx = some x → sc.var? nc = some c →
      (c.val = .list items ∨ c.val = .set items) →
      (Expr.binary .mem (.var nx) (.var nc)).eval limit sc pats =
          (.ok (.bool (items.any (Value.equals x))), pats) ∧
        (Expr.call (some (.var nc)) "contains" [.var nx]).eval limit sc pats =
          (.ok (.bool (items.any (Value.equals x))), pats) ∧
        (Expr.binary .ge (.call (some (.var nc)) "indexOf" [.var nx]) (.lit (.int 0))).eval
          limit sc pats = (.ok (.bool (items.any (Value.equals x))), pats) :=
  ⟨fun a b => Value.equals_comm b.keyed a.keyed, fun v hn => Value.equals_self v.keyed hn,
    fun _ _ _ _ x c _ pats hlim hx hc hcoll =>
      Value.membership_agrees hlim hx hc hcoll x.keyed c.keyed pats⟩

theorem equality_symmetric_membership_agrees_mixed :
    let a : Value := .map [("n", .int 1), ("s", .str "x")]
    let b : Value := .map [("s", .char 'x'), ("n", .dec (Decimal.ofInt64 1))]
    let sc := Scope.ofTarget (.list [.int 2, .str "x"]) (.char 'x') none
    let pats : Patterns := Cache.empty .unbounded
    Value.equals a b = true ∧ Value.equals b a = true ∧ Value.equals b b = true ∧
      (Expr.binary .mem (.var "param") (.var "target")).eval 2 sc pats =
        (.ok (.bool true), pats) ∧
      (Expr.call (some (.var "target")) "contains" [.var "param"]).eval 2 sc pats =
        (.ok (.bool true), pats) ∧
      (Expr.binary .ge (.call (some (.var "target")) "indexOf" [.var "param"])
        (.lit (.int 0))).eval 2 sc pats = (.ok (.bool true), pats) := by
  intro a b sc pats
  have hab : Value.equals a b = true := by decide
  let ka : KeyedValue := ⟨a, by decide⟩
  let kb : KeyedValue := ⟨b, by decide⟩
  have hfound : [Value.int 2, .str "x"].any (Value.equals (.char 'x')) = true := by decide
  obtain ⟨hin, hcontains, hindex⟩ := equality_symmetric_membership_agrees.2.2 2 sc "param"
    "target" ⟨.char 'x', by decide⟩ ⟨.list [.int 2, .str "x"], by decide⟩ _ pats le_rfl rfl rfl
    (.inl rfl)
  rw [hfound] at hin hcontains hindex
  exact ⟨hab, (equality_symmetric_membership_agrees.1 kb ka).trans hab,
    equality_symmetric_membership_agrees.2.1 kb (by decide), hin, hcontains, hindex⟩

end TypedExpr
