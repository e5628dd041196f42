import TypedExpr.Proofs.Value.Extract

/-! The type a value reports for itself. A container reports the one type its non-null elements
share, or `Any` when they share none or there are none (`Value.commonTy_eq_iff`); the descriptor so
inferred accepts the value, at every level of nesting (`Value.ty_accepts`). -/

namespace TypedExpr

namespace Value

@[elab_as_elim]
theorem induction {P : Value → Prop} (null : P .null) (bool : ∀ b, P (.bool b))
    (int : ∀ n, P (.int n)) (float : ∀ x, P (.float x)) (dec : ∀ d, P (.dec d))
    (str : ∀ s, P (.str s)) (char : ∀ c, P (.char c)) (date : ∀ d, P (.date d))
    (dateTime : ∀ t, P (.dateTime t))
    (list : ∀ items, (∀ v ∈ items, P v) → P (.list items))
    (set : ∀ items, (∀ v ∈ items, P v) → P (.set items))
    (map : ∀ es, (∀ e ∈ es, P e.2) → P (.map es)) (v : Value) : P v :=
  @Value.rec P (fun items => ∀ v ∈ items, P v) (fun es => ∀ e ∈ es, P e.2) (fun e => P e.2)
    null bool int float dec str char date dateTime list set map
    (by simp) (fun a as ha has => by simpa [ha] using has) (by simp)
    (fun e es he hes => by simpa [he] using hes) (fun _ _ h => h) v

theorem ty_ne_any {v : Value} (hv : v ≠ .null) : v.ty ≠ .any := by
  cases v <;> simp_all [ty]

theorem commonTy_cons_none {v : Value} (hv : v ≠ .null) (rest : List Value) :
    commonTy none (v :: rest) = commonTy (some v.ty) rest := by
  cases v with
  | null => exact absurd rfl hv
  | _ => rfl

theorem commonTy_cons_some {v : Value} (hv : v ≠ .null) (f : Ty) (rest : List Value) :
    commonTy (some f) (v :: rest) = if f = v.ty then commonTy (some f) rest else .any := by
  cases v with
  | null => exact absurd rfl hv
  | _ => rfl

theorem commonEntryTy_eq (found : Option Ty) (es : List (String × Value)) :
    commonEntryTy found es = commonTy found (es.map Prod.snd) := by
  induction es generalizing found with
  | nil => rfl
  | cons e es ih =>
    obtain ⟨k, v⟩ := e
    cases v <;> simp [commonEntryTy, commonTy, ih]

/-- The type shared by the non-null elements: there is one, and each has this type. -/
def SharesTy (items : List Value) (t : Ty) : Prop :=
  (∃ v ∈ items, v ≠ .null) ∧ ∀ v ∈ items, v ≠ .null → v.ty = t

theorem commonTy_found (found : Option Ty) (items : List Value) :
    commonTy found items = .any ∨
      ((∀ f, found = some f → f = commonTy found items) ∧
        (found ≠ none ∨ ∃ v ∈ items, v ≠ .null) ∧
        ∀ v ∈ items, v ≠ .null → v.ty = commonTy found items) := by
  induction items generalizing found with
  | nil =>
    cases found with
    | none => exact .inl rfl
    | some f => exact .inr ⟨fun g hg => (by cases hg; rfl), .inl (by simp), by simp⟩
  | cons v rest ih =>
    by_cases hv : v = .null
    · -- a null is skipped
      subst hv
      simp only [commonTy]
      rcases ih found with h | ⟨hf, hex, hall⟩
      · exact .inl h
      · refine .inr ⟨hf, ?_, ?_⟩
        · rcases hex with h | ⟨w, hw, hwn⟩
          · exact .inl h
          · exact .inr ⟨w, List.mem_cons_of_mem _ hw, hwn⟩
        · exact List.forall_mem_cons.mpr ⟨fun hn => absurd rfl hn, hall⟩
    · cases found with
      | none =>
        -- the first non-null element fixes the type the rest must share
        rw [commonTy_cons_none hv]
        rcases ih (some v.ty) with h | ⟨hf, -, hall⟩
        · exact .inl h
        · exact .inr ⟨fun g hg => (by cases hg), .inr ⟨v, by simp, hv⟩,
            List.forall_mem_cons.mpr ⟨fun _ => hf _ rfl, hall⟩⟩
      | some f =>
        rw [commonTy_cons_some hv]
        by_cases hfv : f = v.ty
        · rw [if_pos hfv]
          rcases ih (some f) with h | ⟨hf, -, hall⟩
          · exact .inl h
          · -- the element has the type found so far, which the rest keep
            exact .inr ⟨hf, .inl (by simp),
              List.forall_mem_cons.mpr ⟨fun _ => hfv ▸ hf f rfl, hall⟩⟩
        · rw [if_neg hfv]
          exact .inl rfl

theorem commonTy_of_shares {t : Ty} {items : List Value}
    (hall : ∀ v ∈ items, v ≠ .null → v.ty = t) :
    ∀ found : Option Ty, (found = some t ∨ found = none ∧ ∃ v ∈ items, v ≠ .null) →
      commonTy found items = t := by
  induction items with
  | nil =>
    rintro found (rfl | ⟨-, ⟨v, hv, -⟩⟩)
    · rfl
    · simp at hv
  | cons v rest ih =>
    have hrest : ∀ w ∈ rest, w ≠ .null → w.ty = t :=
      fun w hw => hall w (List.mem_cons_of_mem _ hw)
    intro found hfound
    by_cases hv : v = .null
    · subst hv
      simp only [commonTy]
      refine ih hrest found ?_
      rcases hfound with h | ⟨h, w, hw, hwn⟩
      · exact .inl h
      · rcases List.mem_cons.mp hw with rfl | hw
        · exact absurd rfl hwn
        · exact .inr ⟨h, w, hw, hwn⟩
    · have hvt := hall v (by simp) hv
      rcases hfound with rfl | ⟨rfl, -⟩
      · rw [commonTy_cons_some hv, if_pos hvt.symm]
        exact ih hrest _ (.inl rfl)
      · rw [commonTy_cons_none hv, hvt]
        exact ih hrest _ (.inl rfl)

theorem commonTy_eq_iff (items : List Value) (t : Ty) :
    commonTy none items = t ↔
      SharesTy items t ∨ (t = .any ∧ ∀ t', ¬SharesTy items t') := by
  constructor
  · rintro rfl
    rcases commonTy_found none items with h | ⟨-, hex, hall⟩
    · refine .inr ⟨h, fun t' ⟨⟨v, hv, hvn⟩, hall'⟩ => ?_⟩
      rw [commonTy_of_shares hall' none (.inr ⟨rfl, v, hv, hvn⟩)] at h
      exact ty_ne_any hvn (by rw [hall' v hv hvn, h])
    · exact .inl ⟨hex.resolve_left (fun h => h rfl), hall⟩
  · rintro (⟨hex, hall⟩ | ⟨rfl, hno⟩)
    · exact commonTy_of_shares hall none (.inr ⟨rfl, hex⟩)
    · rcases commonTy_found none items with h | ⟨-, hex, hall⟩
      · exact h
      · exact absurd ⟨hex.resolve_left (fun h => h rfl), hall⟩ (hno _)

end Value

namespace Ty

theorem acceptsAll_iff (e : Ty) (items : List Value) :
    acceptsAll e items = true ↔ ∀ v ∈ items, e.accepts v = true := by
  induction items with
  | nil => simp [acceptsAll]
  | cons v rest ih => simp [acceptsAll, ih]

theorem acceptsAll_commonTy {items : List Value} (h : ∀ v ∈ items, v.ty.accepts v = true) :
    (!(Value.commonTy none items).isConstrained || acceptsAll (Value.commonTy none items) items) =
      true := by
  rcases Value.commonTy_found none items with he | ⟨-, -, hall⟩
  · rw [he]
    rfl
  · rw [Bool.or_eq_true, acceptsAll_iff]
    refine .inr fun v hv => ?_
    by_cases hn : v = .null
    · rw [hn, accepts_null]
    · rw [← hall v hv hn]
      exact h v hv

end Ty

namespace Value

theorem ty_accepts (v : Value) : v.ty.accepts v = true := by
  induction v using Value.induction with
  | list items ih => exact Ty.acceptsAll_commonTy ih
  | set items ih => exact Ty.acceptsAll_commonTy ih
  | map es ih =>
    simp only [ty, Ty.accepts, Ty.acceptsEntries_eq, commonEntryTy_eq]
    exact Ty.acceptsAll_commonTy fun v hv => by
      obtain ⟨e, he, rfl⟩ := List.mem_map.mp hv
      exact ih e he
  | _ => rfl

end Value

namespace Evaluator

variable {ev : Evaluator} {source : String} {params : List Value} {target : Value}
  {index : Option Nat} {v : Value}

theorem evaluate_fst_of_accepts {ty ty' : Ty}
    (h : (ev.evaluate ty source params target index).1 = .ok v)
    (ha : ty'.accepts v = true) : (ev.evaluate ty' source params target index).1 = .ok v := by
  rcases hc : (ev.compile source).1 with f | e
  · rw [evaluate_of_compile_error ev ty source params target index hc] at h
    cases h
  · rw [evaluate_of_compile ev ty source params target index hc] at h
    rw [evaluate_of_compile ev ty' source params target index hc]
    rcases hr : (e.eval ev.limit (Scope.ofTarget target (.list params) index) ev.patterns).1 with
      f | w
    · simp [hr, Except.mapError, Except.bind] at h
    · simp only [hr, Except.mapError, Except.bind, verify_eq] at h ⊢
      by_cases hw : ty.accepts w = true
      · rw [if_pos hw] at h
        cases h
        rw [if_pos ha]
      · rw [if_neg hw] at h
        cases h

end Evaluator

/-- Every value is accepted by the type it reports for itself, containers at every level of nesting,
mixed, nested and null elements included. -/
theorem inferred_type_accepts :
    (∀ v : Value, v.ty.accepts v = true) ∧
    (∀ (ev : Evaluator) (source : String) (params : List Value) (target : Value)
      (index : Option Nat) (v : Value),
      (ev.evaluate .any source params target index).1 = .ok v →
        (ev.evaluate v.ty source params target index).1 = .ok v) ∧
    (∀ (items : List Value) (t : Ty),
      ((Value.list items).ty = .list t ↔
        Value.SharesTy items t ∨ (t = .any ∧ ∀ t', ¬Value.SharesTy items t')) ∧
      ((Value.set items).ty = .set t ↔
        Value.SharesTy items t ∨ (t = .any ∧ ∀ t', ¬Value.SharesTy items t'))) ∧
    ∀ (es : List (String × Value)) (t : Ty),
      (Value.map es).ty = .map t ↔
        Value.SharesTy (es.map Prod.snd) t ∨
          (t = .any ∧ ∀ t', ¬Value.SharesTy (es.map Prod.snd) t') := by
  refine ⟨Value.ty_accepts, fun ev source params target index v h =>
    Evaluator.evaluate_fst_of_accepts h (Value.ty_accepts v), fun items t => ⟨?_, ?_⟩,
    fun es t => ?_⟩
  · simp only [Value.ty, Ty.list.injEq]
    exact Value.commonTy_eq_iff items t
  · simp only [Value.ty, Ty.set.injEq]
    exact Value.commonTy_eq_iff items t
  · simp only [Value.ty, Ty.map.injEq, Value.commonEntryTy_eq]
    exact Value.commonTy_eq_iff _ t

theorem inferred_type_accepts_nested :
    let ev : Evaluator := { Evaluator.ofSettings {} with
      exprs := (Cache.empty .unbounded).put "xs"
        (.list [.list [.lit (.int 1)], .list [.lit .null, .lit (.int 2)]]) }
    let v : Value := .list [.list [.int 1], .list [.null, .int 2]]
    (ev.evaluate .any "xs" [] .null none).1 = .ok v ∧ v.ty = .list (.list .int) ∧
      (ev.evaluate v.ty "xs" [] .null none).1 = .ok v := by
  intro ev v
  have h : (ev.evaluate .any "xs" [] .null none).1 = .ok v := rfl
  exact ⟨h, rfl, inferred_type_accepts.2.1 ev "xs" [] .null none v h⟩

end TypedExpr
