import TypedExpr.Proofs.Cache.Memo
import TypedExpr.Proofs.Syntax.Print
import TypedExpr.Eval.Engine

/-! Reusing compiled patterns never changes what an evaluation gives. A pattern cache is faithful
when it holds under every key what compiling the key gives; a computation is steady when it gives
one answer from every faithful pattern cache and leaves a faithful one behind (`Eval.Steady`). -/

namespace TypedExpr

def Stable {α : Type} (f : Patterns → Except Fault α × Patterns) : Prop :=
  ∀ p q : Patterns, p.Faithful Regex.compile → q.Faithful Regex.compile →
    (f p).1 = (f q).1 ∧ (f p).2.Faithful Regex.compile

namespace Eval

variable {α β : Type}

def Steady (m : Eval α) : Prop := Stable fun p => m.run.run p

theorem run_bind_ok {x : Eval α} {f : α → Eval β} {s : Patterns} {a : α}
    (h : (x.run.run s).1 = .ok a) : (x >>= f).run.run s = (f a).run.run (x.run.run s).2 := by
  simp only [ExceptT.run_bind, StateT.run_bind]
  rcases hx : x.run.run s with ⟨r, s'⟩
  rw [hx] at h
  subst h
  rfl

theorem run_bind_error {x : Eval α} {f : α → Eval β} {s : Patterns} {e : Fault}
    (h : (x.run.run s).1 = .error e) : (x >>= f).run.run s = (.error e, (x.run.run s).2) := by
  simp only [ExceptT.run_bind, StateT.run_bind]
  rcases hx : x.run.run s with ⟨r, s'⟩
  rw [hx] at h
  subst h
  rfl

namespace Steady

theorem pure (a : α) : Steady (Pure.pure a : Eval α) := fun _ _ hp _ => ⟨rfl, hp⟩

theorem throw (e : Fault) : Steady (MonadExcept.throw e : Eval α) := fun _ _ hp _ => ⟨rfl, hp⟩

theorem lift (r : Except Fault α) : Steady (Eval.lift r) := by
  cases r with
  | error e => exact throw e
  | ok a => exact pure a

theorem bind {x : Eval α} {f : α → Eval β} (hx : Steady x) (hf : ∀ a, Steady (f a)) :
    Steady (x >>= f) := by
  intro p q hp hq
  obtain ⟨hpq, hp'⟩ := hx p q hp hq
  have hq' := (hx q p hq hp).2
  dsimp only at hpq hp' hq' ⊢
  rcases hr : (x.run.run p).1 with e | a
  · rw [hr] at hpq
    rw [run_bind_error hr, run_bind_error hpq.symm]
    exact ⟨rfl, hp'⟩
  · rw [hr] at hpq
    rw [run_bind_ok hr, run_bind_ok hpq.symm]
    exact hf a _ _ hp' hq'

theorem ite {c : Prop} [Decidable c] {x y : Eval α} (hx : Steady x) (hy : Steady y) :
    Steady (if c then x else y) := by
  split
  · exact hx
  · exact hy

theorem withPatterns {f : Patterns → Except Fault Value × Patterns} (hf : Stable f) :
    Steady (Eval.withPatterns f) := by
  intro p q hp hq
  dsimp only
  rw [withPatterns_run, withPatterns_run]
  exact hf p q hp hq

theorem mapM {f : β → Eval α} : ∀ {l : List β}, (∀ a ∈ l, Steady (f a)) → Steady (l.mapM f)
  | [], _ => pure []
  | a :: l, h => by
    rw [List.mapM_cons]
    exact bind (h a List.mem_cons_self) fun b =>
      bind (mapM fun x hx => h x (List.mem_cons_of_mem a hx)) fun bs => pure (b :: bs)

theorem filterAuxM {p : β → Eval Bool} (hp : ∀ a, Steady (p a)) :
    ∀ (l acc : List β), Steady (List.filterAuxM p l acc)
  | [], acc => pure acc
  | a :: l, acc => by
    rw [List.filterAuxM]
    exact bind (hp a) fun b => filterAuxM hp l _

theorem filterM {p : β → Eval Bool} (hp : ∀ a, Steady (p a)) (l : List β) :
    Steady (l.filterM p) :=
  bind (filterAuxM hp l []) fun kept => pure kept.reverse

end Steady

end Eval

section Patterns

theorem Patterns.get_fst {pats : Patterns} (h : pats.Faithful Regex.compile) (p : String)
    (anchored : Bool) :
    (pats.get p anchored).1 =
      (Regex.compile (if anchored then "^(?:" ++ p ++ ")$" else p)).mapError
        (Fault.invalidRegex p) := by
  simp only [Patterns.get]
  rw [(Cache.Faithful.fetch h _).1]

theorem get_splice_changes_validity :
    let pats : Patterns := Cache.empty (CachePolicy.bounded 256)
    (Regex.compile "a)|(b").toBool = false ∧ (pats.get "a)|(b" true).1.toBool = true ∧
      (Regex.compile "(?x)a#").toBool = true ∧ (pats.get "(?x)a#" true).1.toBool = false := by
  decide

theorem Patterns.get_stable (p : String) (anchored : Bool) :
    Stable fun pats => pats.get p anchored := by
  intro q r hq hr
  refine ⟨by rw [Patterns.get_fst hq, Patterns.get_fst hr], ?_⟩
  exact (Cache.Faithful.fetch hq _).2

theorem Value.stringMethod_stable (s m : String) (args : List Value) :
    Stable fun pats => Value.stringMethod pats s m args := by
  intro p q hp hq
  dsimp only
  unfold Value.stringMethod
  split
  -- `matches` and `split` look their pattern up; every other method leaves the cache alone
  case h_11 | h_12 =>
    split
    · exact ⟨rfl, hp⟩
    · obtain ⟨h1, h2⟩ := Patterns.get_stable _ _ p q hp hq
      exact ⟨by simp only [h1], h2⟩
  all_goals exact ⟨rfl, hp⟩

theorem Value.call_stable (recv : Value) (m : String) (args : List Value) :
    Stable fun pats => Value.call pats recv m args := by
  intro p q hp hq
  dsimp only
  unfold Value.call
  split
  · exact ⟨rfl, hp⟩
  · split
    · exact ⟨rfl, hp⟩
    · split
      case h_1 s _ _ => exact Value.stringMethod_stable s m args p q hp hq
      case h_2 c _ _ => exact Value.stringMethod_stable (String.singleton c) m args p q hp hq
      all_goals exact ⟨rfl, hp⟩

end Patterns

namespace Eval

variable (limit : Nat)

theorem receiver_steady {b : Option Expr}
    (hb : ∀ x ∈ b, ∀ sc d, Steady (expr limit sc d x)) (sc : Scope) (d : Nat) :
    Steady (receiver limit sc d b) := by
  cases b with
  | none => exact Steady.pure _
  | some x =>
    rw [receiver]
    exact hb x rfl sc d

theorem exprs_steady {items : List Expr}
    (h : ∀ a ∈ items, ∀ sc d, Steady (expr limit sc d a)) (sc : Scope) (d : Nat) :
    Steady (exprs limit sc d items) := by
  induction items with
  | nil => exact Steady.pure _
  | cons a rest ih =>
    rw [exprs]
    exact Steady.bind (h a List.mem_cons_self sc d) fun v =>
      Steady.bind (ih fun x hx => h x (List.mem_cons_of_mem a hx)) fun vs => Steady.pure _

theorem pairs_steady {es : List (Expr × Expr)}
    (h : ∀ e ∈ es, (∀ sc d, Steady (expr limit sc d e.1)) ∧ ∀ sc d, Steady (expr limit sc d e.2))
    (sc : Scope) (d : Nat) : ∀ acc, Steady (pairs limit sc d acc es) := by
  induction es with
  | nil => exact Steady.pure
  | cons kv rest ih =>
    intro acc
    obtain ⟨hk, hv⟩ := h kv List.mem_cons_self
    rw [pairs]
    exact Steady.bind (hk sc d) fun key => Steady.bind (hv sc d) fun val =>
      ih (fun x hx => h x (List.mem_cons_of_mem kv hx)) _

theorem expr_steady (e : Expr) : ∀ sc d, Steady (expr limit sc d e) := by
  induction e using Expr.induction with
  | lit l => intro sc d; rw [expr]; exact Steady.ite (Steady.throw _) (Steady.pure _)
  | var n =>
    intro sc d
    rw [expr]
    refine Steady.ite (Steady.throw _) ?_
    split
    · exact Steady.pure _
    · exact Steady.throw _
  | prop b n hb =>
    intro sc d
    rw [expr]
    exact Steady.ite (Steady.throw _) <|
      Steady.bind (receiver_steady limit hb sc _) fun recv => Steady.lift _
  | index b i hb hi =>
    intro sc d
    rw [expr]
    exact Steady.ite (Steady.throw _) <| Steady.bind (hb sc _) fun recv =>
      Steady.bind (hi sc _) fun idx => Steady.lift _
  | call b m args hb hargs =>
    intro sc d
    rw [expr]
    refine Steady.ite (Steady.throw _) <| Steady.bind (receiver_steady limit hb sc _) fun recv =>
      Steady.bind (exprs_steady limit hargs sc _) fun vals => ?_
    exact Steady.withPatterns (Value.call_stable recv m vals)
  | project b m hb hm =>
    intro sc d
    rw [expr]
    exact Steady.ite (Steady.throw _) <| Steady.bind (hb sc _) fun coll =>
      Steady.bind (Steady.lift _) fun items =>
        Steady.bind (Steady.mapM fun item _ => hm _ _) fun mapped => Steady.pure _
  | select b c hb hc =>
    intro sc d
    rw [expr]
    exact Steady.ite (Steady.throw _) <| Steady.bind (hb sc _) fun coll =>
      Steady.bind (Steady.lift _) fun items =>
        Steady.bind (Steady.filterM (fun item => Steady.bind (hc _ _) fun v => Steady.pure _) _)
          fun kept => Steady.pure _
  | binary op l r hl hr =>
    intro sc d
    rw [expr]
    exact Steady.ite (Steady.throw _) <| Steady.bind (hl sc _) fun left =>
      Steady.ite (Steady.pure _) <| Steady.ite (Steady.pure _) <|
        Steady.bind (hr sc _) fun right => Steady.lift _
  | unary op a ha =>
    intro sc d
    rw [expr]
    exact Steady.ite (Steady.throw _) <| Steady.bind (ha sc _) fun v => Steady.lift _
  | cond c a b hc ha hb =>
    intro sc d
    rw [expr]
    exact Steady.ite (Steady.throw _) <| Steady.bind (hc sc _) fun v =>
      Steady.ite (ha sc _) (hb sc _)
  | list items h =>
    intro sc d
    rw [expr]
    exact Steady.ite (Steady.throw _) <| Steady.bind (exprs_steady limit h sc _) fun vs =>
      Steady.pure _
  | map es h =>
    intro sc d
    rw [expr]
    exact Steady.ite (Steady.throw _) <| Steady.bind (pairs_steady limit h sc _ []) fun kvs =>
      Steady.pure _

end Eval

theorem Expr.eval_stable (e : Expr) (limit : Nat) (sc : Scope) :
    Stable fun pats => e.eval limit sc pats :=
  Eval.expr_steady limit e sc 0

end TypedExpr
