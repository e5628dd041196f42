import TypedExpr.Proofs.Eval.Transparent
import TypedExpr.Proofs.Syntax.Height

/-! The depth limit of evaluation counts the nesting of the tree and nothing else. Only the check at
the top of every node reports it: the operations on values never do (`Value.call_ne_limit` and its
siblings). -/

namespace TypedExpr

section Faults

variable {α β ε : Type}

theorem Except.map_eq_error {f : α → β} {r : Except ε α} {e : ε} :
    r.map f = .error e ↔ r = .error e := by
  cases r <;> simp [Except.map]

theorem Except.fmap_eq_error {f : α → β} {r : Except ε α} {e : ε} :
    f <$> r = .error e ↔ r = .error e := by
  cases r <;> simp [Functor.map, Except.map]

theorem Except.bind_eq_error {x : Except ε α} {f : α → Except ε β} {e : ε} :
    x >>= f = .error e ↔ x = .error e ∨ ∃ a, x = .ok a ∧ f a = .error e := by
  cases x <;> simp [bind, Except.bind]

theorem Except.pure_ne_error (a : α) (e : ε) : (pure a : Except ε α) ≠ .error e := by
  intro h
  cases h

theorem Except.throw_eq_error {e e' : ε} : (throw e : Except ε α) = .error e' ↔ e = e' := by
  simp [throw, throwThe, MonadExceptOf.throw]

end Faults

/-! ### The operations on values never report the depth limit -/

theorem Patterns.get_ne_limit (pats : Patterns) (p : String) (anchored : Bool) (n : Nat) :
    (pats.get p anchored).1 ≠ .error (.recursionLimit n) := by
  simp only [Patterns.get]
  intro h
  cases hr : (pats.fetch (if anchored then "^(?:" ++ p ++ ")$" else p) Regex.compile).1 <;>
    simp_all [Except.mapError]

namespace Value

variable (n : Nat)

theorem arity_ne_limit (m : String) (args : List Value) (lo hi : Nat) :
    arity m args lo hi ≠ .error (.recursionLimit n) := by
  unfold arity
  grind

theorem intArg_ne_limit (m : String) (v : Value) : intArg m v ≠ .error (.recursionLimit n) := by
  unfold intArg
  grind

theorem textArg_ne_limit (m : String) (v : Value) : textArg m v ≠ .error (.recursionLimit n) := by
  unfold textArg
  grind

theorem elementAt_ne_limit (v : Value) (items : List Value) (i : Int64) :
    elementAt v items i ≠ .error (.recursionLimit n) := by
  unfold elementAt
  grind

theorem charAt_ne_limit (s : String) (i : Int64) : charAt s i ≠ .error (.recursionLimit n) := by
  unfold charAt
  grind

theorem commonMethod_ne_limit {recv : Value} {m : String} {args : List Value}
    {r : Except Fault Value} (h : commonMethod recv m args = some r) :
    r ≠ .error (.recursionLimit n) := by
  unfold commonMethod at h
  grind [Except.bind_eq_error, Except.pure_ne_error, arity_ne_limit]

theorem stringMethod_ne_limit (pats : Patterns) (s m : String) (args : List Value) :
    (stringMethod pats s m args).1 ≠ .error (.recursionLimit n) := by
  unfold stringMethod
  grind [Except.bind_eq_error, Except.map_eq_error, Except.fmap_eq_error, Except.throw_eq_error,
    Except.pure_ne_error, arity_ne_limit, intArg_ne_limit, textArg_ne_limit, charAt_ne_limit,
    Patterns.get_ne_limit]

theorem collectionMethod_ne_limit (recv : Value) (items : List Value) (m : String)
    (args : List Value) : collectionMethod recv items m args ≠ .error (.recursionLimit n) := by
  unfold collectionMethod noSuchMethod
  grind [Except.bind_eq_error, Except.pure_ne_error, arity_ne_limit, intArg_ne_limit,
    elementAt_ne_limit]

theorem mapMethod_ne_limit (recv : Value) (entries : List (String × Value)) (m : String)
    (args : List Value) : mapMethod recv entries m args ≠ .error (.recursionLimit n) := by
  unfold mapMethod noSuchMethod
  grind [Except.bind_eq_error, Except.pure_ne_error, arity_ne_limit, textArg_ne_limit]

theorem numberMethod_ne_limit (recv : Value) (m : String) (args : List Value) :
    numberMethod recv m args ≠ .error (.recursionLimit n) := by
  unfold numberMethod noSuchMethod
  grind [Except.bind_eq_error, Except.pure_ne_error, Except.throw_eq_error, arity_ne_limit]

theorem call_ne_limit (pats : Patterns) (recv : Value) (m : String) (args : List Value) :
    (call pats recv m args).1 ≠ .error (.recursionLimit n) := by
  unfold call
  split
  · simp
  · split
    · exact commonMethod_ne_limit n ‹_›
    -- otherwise the kind of the receiver picks its table of methods
    · split
      case h_1 | h_2 => exact stringMethod_ne_limit n pats _ m args
      case h_3 | h_4 => exact collectionMethod_ne_limit n _ _ m args
      case h_5 => exact mapMethod_ne_limit n _ _ m args
      case h_6 | h_7 | h_8 =>
        dsimp only
        exact numberMethod_ne_limit n _ m args
      case h_9 => simp [noSuchMethod]

theorem property_ne_limit (v : Value) (name : String) :
    property v name ≠ .error (.recursionLimit n) := by
  unfold property
  grind

theorem index_ne_limit (v i : Value) : index v i ≠ .error (.recursionLimit n) := by
  unfold index
  grind [elementAt_ne_limit, charAt_ne_limit]

theorem intArith_ne_limit {op : BinOp} {a b : Int64} {r : Except Fault Int64}
    (h : intArith op a b = some r) : r ≠ .error (.recursionLimit n) := by
  unfold intArith at h
  grind

theorem decArith_ne_limit {op : BinOp} {a b : Decimal} {r : Except Fault Decimal}
    (h : decArith op a b = some r) : r ≠ .error (.recursionLimit n) := by
  unfold decArith at h
  grind

theorem arith_ne_limit (op : BinOp) (l r : Value) : arith op l r ≠ .error (.recursionLimit n) := by
  unfold arith
  grind [badOperands, Except.map_eq_error, intArith_ne_limit, decArith_ne_limit]

theorem order_ne_limit (op : BinOp) (l r : Value) : order op l r ≠ .error (.recursionLimit n) := by
  unfold order
  grind [badOperands]

theorem compareWith_ne_limit (op : BinOp) (l r : Value) :
    compareWith op l r ≠ .error (.recursionLimit n) := by
  intro h
  unfold compareWith at h
  rcases Except.bind_eq_error.mp h with h | ⟨o, -, h⟩
  · exact order_ne_limit n op l r h
  · grind [badOperands, Except.pure_ne_error]

theorem contains_ne_limit (op : BinOp) (l r : Value) :
    contains op l r ≠ .error (.recursionLimit n) := by
  unfold contains
  grind [badOperands]

theorem binary_ne_limit (op : BinOp) (l r : Value) :
    binary op l r ≠ .error (.recursionLimit n) := by
  unfold binary
  grind [Except.map_eq_error, contains_ne_limit, compareWith_ne_limit, arith_ne_limit]

theorem unary_ne_limit (op : UnOp) (v : Value) : unary op v ≠ .error (.recursionLimit n) := by
  unfold unary
  grind

end Value

namespace Eval

theorem elements_ne_limit (v : Value) (n : Nat) : elements v ≠ .error (.recursionLimit n) := by
  unfold elements
  grind

variable {α β : Type}

/-! ### Runs that do not stop at the limit -/

def Agrees (d : Nat) (m m' : Eval α) : Prop :=
  ∀ p, (m.run.run p).1 ≠ .error (.recursionLimit d) → m'.run.run p = m.run.run p

namespace Agrees

variable {d : Nat}

theorem refl (m : Eval α) : Agrees d m m := fun _ _ => rfl

theorem bind {x x' : Eval α} {f f' : α → Eval β} (hx : Agrees d x x')
    (hf : ∀ a, Agrees d (f a) (f' a)) : Agrees d (x >>= f) (x' >>= f') := by
  intro p hp
  rcases hr : (x.run.run p).1 with e | a
  · rw [run_bind_error hr] at hp ⊢
    have he : e ≠ .recursionLimit d := fun h => hp (by rw [h])
    have hx' := hx p (by rw [hr]; exact fun h => he (Except.error.inj h))
    rw [run_bind_error (hx' ▸ hr), hx']
  · rw [run_bind_ok hr] at hp ⊢
    have hx' := hx p (by rw [hr]; simp)
    rw [run_bind_ok (hx' ▸ hr), hx']
    exact hf a _ hp

theorem ite {c : Prop} [Decidable c] {x x' y y' : Eval α} (hx : Agrees d x x')
    (hy : Agrees d y y') : Agrees d (if c then x else y) (if c then x' else y') := by
  split
  · exact hx
  · exact hy

theorem mapM {f f' : β → Eval α} :
    ∀ {l : List β}, (∀ a ∈ l, Agrees d (f a) (f' a)) → Agrees d (l.mapM f) (l.mapM f')
  | [], _ => refl _
  | a :: l, h => by
    rw [List.mapM_cons, List.mapM_cons]
    exact bind (h a List.mem_cons_self) fun b =>
      bind (mapM fun x hx => h x (List.mem_cons_of_mem a hx)) fun bs => refl _

theorem filterAuxM {p p' : β → Eval Bool} (hp : ∀ a, Agrees d (p a) (p' a)) :
    ∀ (l acc : List β), Agrees d (List.filterAuxM p l acc) (List.filterAuxM p' l acc)
  | [], acc => refl _
  | a :: l, acc => by
    rw [List.filterAuxM, List.filterAuxM]
    exact bind (hp a) fun b => filterAuxM hp l _

theorem filterM {p p' : β → Eval Bool} (hp : ∀ a, Agrees d (p a) (p' a)) (l : List β) :
    Agrees d (l.filterM p) (l.filterM p') :=
  bind (filterAuxM hp l []) fun _ => refl _

theorem check {d2 k : Nat} (hd : d ≤ d2) {x x' : Eval α} (hx : Agrees d x x') :
    Agrees d (if k > d then throw (.recursionLimit d) else x)
      (if k > d2 then throw (.recursionLimit d2) else x') := by
  intro p hp
  by_cases hk : k > d
  · rw [if_pos hk] at hp
    exact absurd rfl hp
  · rw [if_neg hk] at hp ⊢
    rw [if_neg (by omega)]
    exact hx p hp

end Agrees

section Agreement

variable {d d2 : Nat}

theorem receiver_agrees {b : Option Expr}
    (hb : ∀ x ∈ b, ∀ sc k, Agrees d (expr d sc k x) (expr d2 sc k x)) (sc : Scope) (k : Nat) :
    Agrees d (receiver d sc k b) (receiver d2 sc k b) := by
  cases b with
  | none => exact Agrees.refl _
  | some x =>
    rw [receiver, receiver]
    exact hb x rfl sc k

theorem exprs_agrees {items : List Expr}
    (h : ∀ a ∈ items, ∀ sc k, Agrees d (expr d sc k a) (expr d2 sc k a)) (sc : Scope) (k : Nat) :
    Agrees d (exprs d sc k items) (exprs d2 sc k items) := by
  induction items with
  | nil => exact Agrees.refl _
  | cons a rest ih =>
    rw [exprs, exprs]
    exact Agrees.bind (h a List.mem_cons_self sc k) fun v =>
      Agrees.bind (ih fun x hx => h x (List.mem_cons_of_mem a hx)) fun vs => Agrees.refl _

theorem pairs_agrees {es : List (Expr × Expr)}
    (h : ∀ e ∈ es, (∀ sc k, Agrees d (expr d sc k e.1) (expr d2 sc k e.1)) ∧
      ∀ sc k, Agrees d (expr d sc k e.2) (expr d2 sc k e.2))
    (sc : Scope) (k : Nat) : ∀ acc, Agrees d (pairs d sc k acc es) (pairs d2 sc k acc es) := by
  induction es with
  | nil => exact fun acc => Agrees.refl _
  | cons kv rest ih =>
    intro acc
    obtain ⟨hk, hv⟩ := h kv List.mem_cons_self
    rw [pairs, pairs]
    exact Agrees.bind (hk sc k) fun key => Agrees.bind (hv sc k) fun val =>
      ih (fun x hx => h x (List.mem_cons_of_mem kv hx)) _

theorem expr_agrees (hd : d ≤ d2) (e : Expr) : ∀ sc k, Agrees d (expr d sc k e) (expr d2 sc k e) := by
  induction e using Expr.induction with
  | lit l => intro sc k; rw [expr, expr]; exact Agrees.check hd (Agrees.refl _)
  | var n => intro sc k; rw [expr, expr]; exact Agrees.check hd (Agrees.refl _)
  | prop b n hb =>
    intro sc k
    rw [expr, expr]
    exact Agrees.check hd <| Agrees.bind (receiver_agrees hb sc _) fun recv => Agrees.refl _
  | index b i hb hi =>
    intro sc k
    rw [expr, expr]
    exact Agrees.check hd <| Agrees.bind (hb sc _) fun recv =>
      Agrees.bind (hi sc _) fun idx => Agrees.refl _
  | call b m args hb hargs =>
    intro sc k
    rw [expr, expr]
    exact Agrees.check hd <| Agrees.bind (receiver_agrees hb sc _) fun recv =>
      Agrees.bind (exprs_agrees hargs sc _) fun vals => Agrees.refl _
  | project b m hb hm =>
    intro sc k
    rw [expr, expr]
    exact Agrees.check hd <| Agrees.bind (hb sc _) fun coll =>
      Agrees.bind (Agrees.refl _) fun items =>
        Agrees.bind (Agrees.mapM fun item _ => hm _ _) fun mapped => Agrees.refl _
  | select b c hb hc =>
    intro sc k
    rw [expr, expr]
    exact Agrees.check hd <| Agrees.bind (hb sc _) fun coll =>
      Agrees.bind (Agrees.refl _) fun items =>
        Agrees.bind (Agrees.filterM (fun item => Agrees.bind (hc _ _) fun v => Agrees.refl _) _)
          fun _ => Agrees.refl _
  | binary op l r hl hr =>
    intro sc k
    rw [expr, expr]
    exact Agrees.check hd <| Agrees.bind (hl sc _) fun left =>
      Agrees.ite (Agrees.refl _) <| Agrees.ite (Agrees.refl _) <|
        Agrees.bind (hr sc _) fun right => Agrees.refl _
  | unary op a ha =>
    intro sc k
    rw [expr, expr]
    exact Agrees.check hd <| Agrees.bind (ha sc _) fun v => Agrees.refl _
  | cond c a b hc ha hb =>
    intro sc k
    rw [expr, expr]
    exact Agrees.check hd <| Agrees.bind (hc sc _) fun v => Agrees.ite (ha sc _) (hb sc _)
  | list items h =>
    intro sc k
    rw [expr, expr]
    exact Agrees.check hd <| Agrees.bind (exprs_agrees h sc _) fun vs => Agrees.refl _
  | map es h =>
    intro sc k
    rw [expr, expr]
    exact Agrees.check hd <| Agrees.bind (pairs_agrees h sc _ []) fun kvs => Agrees.refl _

end Agreement

/-! ### Trees that never reach the limit -/

def Clear (m : Eval α) : Prop := ∀ p n, (m.run.run p).1 ≠ .error (.recursionLimit n)

namespace Clear

theorem pure (a : α) : Clear (Pure.pure a : Eval α) := fun _ _ h => by cases h

theorem throw {e : Fault} (he : ∀ n, e ≠ .recursionLimit n) :
    Clear (MonadExcept.throw e : Eval α) := fun _ n h => he n (Except.error.inj h)

theorem lift {r : Except Fault α} (hr : ∀ n, r ≠ .error (.recursionLimit n)) :
    Clear (Eval.lift r) := by
  cases r with
  | error e => exact throw fun n h => hr n (by rw [h])
  | ok a => exact pure a

theorem bind {x : Eval α} {f : α → Eval β} (hx : Clear x) (hf : ∀ a, Clear (f a)) :
    Clear (x >>= f) := by
  intro p n
  rcases hr : (x.run.run p).1 with e | a
  · have he : e ≠ .recursionLimit n := fun h => hx p n (by rw [hr, h])
    rw [run_bind_error hr]
    exact fun h => he (Except.error.inj h)
  · rw [run_bind_ok hr]
    exact hf a _ n

theorem ite {c : Prop} [Decidable c] {x y : Eval α} (hx : Clear x) (hy : Clear y) :
    Clear (if c then x else y) := by
  split
  · exact hx
  · exact hy

theorem withPatterns {f : Patterns → Except Fault Value × Patterns}
    (hf : ∀ p n, (f p).1 ≠ .error (.recursionLimit n)) : Clear (Eval.withPatterns f) := by
  intro p n
  rw [withPatterns_run]
  exact hf p n

theorem mapM {f : β → Eval α} : ∀ {l : List β}, (∀ a ∈ l, Clear (f a)) → Clear (l.mapM f)
  | [], _ => pure []
  | a :: l, h => by
    rw [List.mapM_cons]
    exact bind (h a List.mem_cons_self) fun b =>
      bind (mapM fun x hx => h x (List.mem_cons_of_mem a hx)) fun bs => pure (b :: bs)

theorem filterAuxM {p : β → Eval Bool} (hp : ∀ a, Clear (p a)) :
    ∀ (l acc : List β), Clear (List.filterAuxM p l acc)
  | [], acc => pure acc
  | a :: l, acc => by
    rw [List.filterAuxM]
    exact bind (hp a) fun b => filterAuxM hp l _

theorem filterM {p : β → Eval Bool} (hp : ∀ a, Clear (p a)) (l : List β) :
    Clear (l.filterM p) :=
  bind (filterAuxM hp l []) fun kept => pure kept.reverse

theorem check {d k : Nat} (hk : k ≤ d) {x : Eval α} (hx : Clear x) :
    Clear (if k > d then MonadExcept.throw (.recursionLimit d) else x) := by
  rw [if_neg (by omega)]
  exact hx

end Clear

section Clearance

variable {d : Nat}

theorem receiver_clear {b : Option Expr}
    (hb : ∀ x ∈ b, ∀ sc k, x.height + k ≤ d + 1 → Clear (expr d sc k x)) (sc : Scope) {k : Nat}
    (hk : Expr.baseHeight b + k ≤ d + 1) : Clear (receiver d sc k b) := by
  cases b with
  | none => exact Clear.pure _
  | some x =>
    rw [receiver]
    exact hb x rfl sc k hk

theorem exprs_clear {items : List Expr}
    (h : ∀ a ∈ items, ∀ sc k, a.height + k ≤ d + 1 → Clear (expr d sc k a)) (sc : Scope)
    {k : Nat} (hk : Expr.heightList items + k ≤ d + 1) : Clear (exprs d sc k items) := by
  induction items with
  | nil => exact Clear.pure _
  | cons a rest ih =>
    simp only [Expr.heightList] at hk
    rw [exprs]
    exact Clear.bind (h a List.mem_cons_self sc k (by omega)) fun v =>
      Clear.bind (ih (fun x hx => h x (List.mem_cons_of_mem a hx)) (by omega)) fun vs =>
        Clear.pure _

theorem pairs_clear {es : List (Expr × Expr)}
    (h : ∀ e ∈ es, (∀ sc k, e.1.height + k ≤ d + 1 → Clear (expr d sc k e.1)) ∧
      ∀ sc k, e.2.height + k ≤ d + 1 → Clear (expr d sc k e.2))
    (sc : Scope) {k : Nat} (hk : Expr.heightPairs es + k ≤ d + 1) :
    ∀ acc, Clear (pairs d sc k acc es) := by
  induction es with
  | nil => exact fun acc => Clear.pure _
  | cons kv rest ih =>
    intro acc
    obtain ⟨key, val⟩ := kv
    obtain ⟨hkey, hval⟩ := h (key, val) List.mem_cons_self
    dsimp only at hkey hval
    simp only [Expr.heightPairs] at hk
    rw [pairs]
    exact Clear.bind (hkey sc k (by omega)) fun _ => Clear.bind (hval sc k (by omega)) fun _ =>
      ih (fun x hx => h x (List.mem_cons_of_mem _ hx)) (by omega) _

theorem expr_clear (e : Expr) : ∀ sc k, e.height + k ≤ d + 1 → Clear (expr d sc k e) := by
  induction e using Expr.induction with
  | lit l =>
    intro sc k hk
    simp only [Expr.height] at hk
    rw [expr]
    exact Clear.check (by omega) (Clear.pure _)
  | var n =>
    intro sc k hk
    simp only [Expr.height] at hk
    rw [expr]
    refine Clear.check (by omega) ?_
    split
    · exact Clear.pure _
    · exact Clear.throw fun _ => Fault.noConfusion
  | prop b n hb =>
    intro sc k hk
    rw [Expr.height_prop] at hk
    rw [expr]
    exact Clear.check (by omega) <| Clear.bind (receiver_clear hb sc (by omega)) fun recv =>
      Clear.lift (Value.property_ne_limit · recv n)
  | index b i hb hi =>
    intro sc k hk
    simp only [Expr.height] at hk
    rw [expr]
    exact Clear.check (by omega) <| Clear.bind (hb sc _ (by omega)) fun recv =>
      Clear.bind (hi sc _ (by omega)) fun idx => Clear.lift (Value.index_ne_limit · recv idx)
  | call b m args hb hargs =>
    intro sc k hk
    rw [Expr.height_call] at hk
    rw [expr]
    exact Clear.check (by omega) <| Clear.bind (receiver_clear hb sc (by omega)) fun recv =>
      Clear.bind (exprs_clear hargs sc (by omega)) fun vals =>
        Clear.withPatterns fun p n => Value.call_ne_limit n p recv m vals
  | project b m hb hm =>
    intro sc k hk
    simp only [Expr.height] at hk
    rw [expr]
    exact Clear.check (by omega) <| Clear.bind (hb sc _ (by omega)) fun coll =>
      Clear.bind (Clear.lift (elements_ne_limit coll)) fun items =>
        Clear.bind (Clear.mapM fun item _ => hm _ _ (by omega)) fun mapped => Clear.pure _
  | select b c hb hc =>
    intro sc k hk
    simp only [Expr.height] at hk
    rw [expr]
    exact Clear.check (by omega) <| Clear.bind (hb sc _ (by omega)) fun coll =>
      Clear.bind (Clear.lift (elements_ne_limit coll)) fun items =>
        Clear.bind (Clear.filterM (fun item =>
          Clear.bind (hc _ _ (by omega)) fun v => Clear.pure _) _) fun kept => Clear.pure _
  | binary op l r hl hr =>
    intro sc k hk
    simp only [Expr.height] at hk
    rw [expr]
    exact Clear.check (by omega) <| Clear.bind (hl sc _ (by omega)) fun left =>
      Clear.ite (Clear.pure _) <| Clear.ite (Clear.pure _) <|
        Clear.bind (hr sc _ (by omega)) fun right =>
          Clear.lift (Value.binary_ne_limit · op left right)
  | unary op a ha =>
    intro sc k hk
    simp only [Expr.height] at hk
    rw [expr]
    exact Clear.check (by omega) <| Clear.bind (ha sc _ (by omega)) fun v =>
      Clear.lift (Value.unary_ne_limit · op v)
  | cond c a b hc ha hb =>
    intro sc k hk
    simp only [Expr.height] at hk
    rw [expr]
    exact Clear.check (by omega) <| Clear.bind (hc sc _ (by omega)) fun v =>
      Clear.ite (ha sc _ (by omega)) (hb sc _ (by omega))
  | list items h =>
    intro sc k hk
    simp only [Expr.height] at hk
    rw [expr]
    exact Clear.check (by omega) <| Clear.bind (exprs_clear h sc (by omega)) fun vs =>
      Clear.pure _
  | map es h =>
    intro sc k hk
    simp only [Expr.height] at hk
    rw [expr]
    exact Clear.check (by omega) <| Clear.bind (pairs_clear h sc (by omega) []) fun kvs =>
      Clear.pure _

end Clearance

end Eval

/-- The depth limit only cuts runs short. -/
theorem Expr.eval_limit_monotone {d d2 : Nat} (hd : d ≤ d2) (e : Expr) (sc : Scope)
    (pats : Patterns) :
    ((e.eval d sc pats).1 ≠ .error (.recursionLimit d) → e.eval d2 sc pats = e.eval d sc pats) ∧
    (e.height ≤ d + 1 → ∀ n, (e.eval d sc pats).1 ≠ .error (.recursionLimit n)) :=
  ⟨Eval.expr_agrees hd e sc 0 pats, fun h => Eval.expr_clear e sc 0 (by omega) pats⟩

theorem eval_limit_monotone_sum :
    let e : Expr := .binary .add (.lit (.int 1)) (.lit (.int 2))
    let sc := Scope.ofTarget .null .null none
    let pats : Patterns := Cache.empty (CachePolicy.bounded 256)
    1 ≤ 4 ∧ e.height ≤ 1 + 1 ∧ e.eval 4 sc pats = e.eval 1 sc pats := by
  intro e sc pats
  have hh : e.height ≤ 1 + 1 := by decide
  have h := Expr.eval_limit_monotone (by decide : 1 ≤ 4) e sc pats
  exact ⟨by decide, hh, h.1 (h.2 hh 1)⟩

/-- The bound is tight: the same sum under limit zero stops at its operands. -/
example : ((Expr.binary .add (.lit (.int 1)) (.lit (.int 2))).eval 0 (Scope.ofTarget .null .null none)
    (Cache.empty (CachePolicy.bounded 256))).1 = .error (.recursionLimit 0) := rfl

end TypedExpr
