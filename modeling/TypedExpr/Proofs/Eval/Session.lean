import TypedExpr.Proofs.Eval.Transparent

/-! An evaluator driven through a session of requests answers as a fresh one would. While no request
puts a compiled form by hand, both caches of the evaluator stay faithful: every entry is what
compiling its key gives (`Evaluator.Faithful`). -/

namespace TypedExpr

/-- The requests a caller makes to an evaluator. -/
inductive Request where
  | eval (ty : Ty) (source : String) (params : List Value) (target : Value) (index : Option Nat)
  | compile (source : String)
  | put (key : String) (e : Expr)
  | get (key : String)
  | contains (key : String)
  | remove (key : String)
  | clear
  | size

def Request.cacheOp : Request → CacheOp Expr ParseError
  | .eval _ source _ _ _ | .compile source => .fetch source Parser.parse
  | .put k e => .put k e
  | .get k => .find k
  | .contains k => .contains k
  | .remove k => .remove k
  | .clear => .clear
  | .size => .size

/-- The failure as reported for another source text. -/
def Failure.withSource (source : String) : Failure → Failure
  | .invalidArgument m => .invalidArgument m
  | .compilation _ c => .compilation source c
  | .evaluation _ c => .evaluation source c
  | .typeMismatch _ t a => .typeMismatch source t a

namespace Evaluator

def exec (ev : Evaluator) : Request → Evaluator
  | .eval ty source params target index => (ev.evaluate ty source params target index).2
  | .compile source => (ev.compile source).2
  | .put k e => { ev with exprs := ev.exprs.put k e }
  | .remove k => { ev with exprs := (ev.exprs.remove k).2 }
  | .clear => { ev with exprs := ev.exprs.clear }
  | .get _ | .contains _ | .size => ev

/-- The evaluator after requests made in turn. -/
def run (ev : Evaluator) : List Request → Evaluator
  | [] => ev
  | q :: qs => (ev.exec q).run qs

section Requests

variable (ev : Evaluator) (ty : Ty) (source : String) (params : List Value) (target : Value)
  (index : Option Nat)

theorem compile_eq : ev.compile source =
    ((ev.exprs.fetch source Parser.parse).1.mapError (Failure.compilation source),
      { ev with exprs := (ev.exprs.fetch source Parser.parse).2 }) := rfl

theorem evaluate_of_compile {e : Expr} (hc : (ev.compile source).1 = .ok e) :
    ev.evaluate ty source params target index =
      (((e.eval ev.limit (Scope.ofTarget target (.list params) index) ev.patterns).1.mapError
          (Failure.evaluation source)).bind (verify ty source),
        { (ev.compile source).2 with
          patterns := (e.eval ev.limit (Scope.ofTarget target (.list params) index)
            ev.patterns).2 }) := by
  unfold evaluate
  rcases h : ev.compile source with ⟨_ | e', ev'⟩
  · rw [h] at hc
    cases hc
  · rw [h] at hc
    cases hc
    have hev : ev' = { ev with exprs := (ev.exprs.fetch source Parser.parse).2 } :=
      (congrArg Prod.snd h).symm
    subst hev
    dsimp only
    rcases (e.eval ev.limit (Scope.ofTarget target (.list params) index) ev.patterns) with
      ⟨_ | v, pats⟩ <;> rfl

theorem evaluate_of_compile_error {f : Failure} (hc : (ev.compile source).1 = .error f) :
    ev.evaluate ty source params target index = (.error f, (ev.compile source).2) := by
  unfold evaluate
  rcases h : ev.compile source with ⟨_ | e', ev'⟩
  · rw [h] at hc
    cases hc
    rfl
  · rw [h] at hc
    cases hc

theorem exec_exprs (q : Request) : (ev.exec q).exprs = ev.exprs.exec q.cacheOp := by
  cases q with
  | eval ty source params target index =>
    rcases hc : (ev.compile source).1 with f | e
    · rw [exec, evaluate_of_compile_error _ _ _ _ _ _ hc]
      rfl
    · rw [exec, evaluate_of_compile _ _ _ _ _ _ hc]
      rfl
  | compile | put | remove | clear | get | contains | size => rfl

theorem exec_limit (q : Request) : (ev.exec q).limit = ev.limit := by
  cases q with
  | eval ty source params target index =>
    rcases hc : (ev.compile source).1 with f | e
    · rw [exec, evaluate_of_compile_error _ _ _ _ _ _ hc]
      rfl
    · rw [exec, evaluate_of_compile _ _ _ _ _ _ hc]
      rfl
  | compile | put | remove | clear | get | contains | size => rfl

theorem exec_patterns (h : ev.patterns.Faithful Regex.compile) (q : Request) :
    (ev.exec q).patterns.Faithful Regex.compile := by
  cases q with
  | eval ty source params target index =>
    rcases hc : (ev.compile source).1 with f | e
    · rw [exec, evaluate_of_compile_error _ _ _ _ _ _ hc]
      exact h
    · rw [exec, evaluate_of_compile _ _ _ _ _ _ hc]
      exact (e.eval_stable _ _ _ _ h h).2
  | compile | put | remove | clear | get | contains | size => exact h

theorem run_exprs (qs : List Request) : (ev.run qs).exprs = ev.exprs.run (qs.map Request.cacheOp) := by
  induction qs generalizing ev with
  | nil => rfl
  | cons q qs ih => rw [run, ih, exec_exprs]; rfl

theorem run_limit (qs : List Request) : (ev.run qs).limit = ev.limit := by
  induction qs generalizing ev with
  | nil => rfl
  | cons q qs ih => rw [run, ih, exec_limit]

theorem run_patterns (h : ev.patterns.Faithful Regex.compile) (qs : List Request) :
    (ev.run qs).patterns.Faithful Regex.compile := by
  induction qs generalizing ev with
  | nil => exact h
  | cons q qs ih => exact ih _ (exec_patterns ev h q)

end Requests

/-- Both caches hold, under every key, what compiling the key gives. -/
structure Faithful (ev : Evaluator) : Prop where
  exprs : ev.exprs.Faithful Parser.parse
  patterns : ev.patterns.Faithful Regex.compile

theorem ofSettings_faithful (s : Settings) : (ofSettings s).Faithful :=
  ⟨Cache.faithful_empty _, Cache.faithful_empty _⟩

section Faithful

variable {ev ev' : Evaluator}

theorem Faithful.compile_fst (h : ev.exprs.Faithful Parser.parse) (source : String) :
    (ev.compile source).1 = (Parser.parse source).mapError (Failure.compilation source) := by
  rw [compile_eq, (h.fetch source).1]

theorem Faithful.exec (h : ev.Faithful) {q : Request} (hq : ∀ k e, q ≠ .put k e) :
    (ev.exec q).Faithful := by
  refine ⟨?_, exec_patterns ev h.patterns q⟩
  rw [exec_exprs]
  cases q with
  | eval _ source _ _ _ | compile source => exact (h.exprs.fetch source).2
  | put k e => exact absurd rfl (hq k e)
  | remove k => exact h.exprs.remove k
  | clear => exact Cache.Faithful.clear _
  | get | contains | size => exact h.exprs

theorem Faithful.run (h : ev.Faithful) {qs : List Request} (hqs : ∀ k e, Request.put k e ∉ qs) :
    (ev.run qs).Faithful := by
  induction qs generalizing ev with
  | nil => exact h
  | cons q qs ih =>
    have hq : ∀ k e, q ≠ .put k e := fun k e hq => hqs k e (hq ▸ List.mem_cons_self)
    exact ih (h.exec hq) fun k e hk => hqs k e (List.mem_cons_of_mem q hk)

theorem Faithful.evaluate_fst (h : ev.Faithful) (h' : ev'.Faithful) (hl : ev.limit = ev'.limit)
    (ty : Ty) (source : String) (params : List Value) (target : Value) (index : Option Nat) :
    (ev.evaluate ty source params target index).1 = (ev'.evaluate ty source params target index).1 := by
  have hc := Faithful.compile_fst h.exprs source
  have hc' := Faithful.compile_fst h'.exprs source
  rcases hp : Parser.parse source with f | e
  · rw [hp] at hc hc'
    rw [evaluate_of_compile_error _ _ _ _ _ _ hc, evaluate_of_compile_error _ _ _ _ _ _ hc']
  · rw [hp] at hc hc'
    rw [evaluate_of_compile _ _ _ _ _ _ hc, evaluate_of_compile _ _ _ _ _ _ hc', hl,
      (e.eval_stable _ _ _ _ h.patterns h'.patterns).1]

end Faithful

section Put

variable {ev : Evaluator} {k : String} {e : Expr}

theorem compile_of_find? (hx : ev.exprs.find? k = some e) : (ev.compile k).1 = .ok e := by
  rw [compile_eq, Cache.fetch_hit _ _ hx]
  rfl

theorem run_find?_of_put (hx : ev.exprs.find? k = some e) {qs : List Request}
    (hput : ∀ e', Request.put k e' ∉ qs) (hk : ∀ i ≤ qs.length, k ∈ (ev.run (qs.take i)).exprs.keys) :
    (ev.run qs).exprs.find? k = some e := by
  rw [run_exprs]
  refine Cache.run_find? hx _ (fun e' he' => ?_) fun i hi => ?_
  · obtain ⟨q, hq, hqe⟩ := List.mem_map.mp he'
    cases q <;> simp only [Request.cacheOp, reduceCtorEq] at hqe
    obtain ⟨rfl, rfl⟩ := CacheOp.put.inj hqe
    exact hput _ hq
  · rw [← List.map_take, ← run_exprs]
    exact hk i (by simpa using hi)

end Put

end Evaluator

theorem Evaluator.outcome_withSource (r : Except Fault Value) (ty : Ty) (k s : String) :
    ((r.mapError (Failure.evaluation s)).bind (Evaluator.verify ty s)).mapError
        (Failure.withSource k) =
      (r.mapError (Failure.evaluation k)).bind (Evaluator.verify ty k) := by
  cases r with
  | error f => rfl
  | ok v =>
    show (Evaluator.verify ty s v).mapError (Failure.withSource k) = Evaluator.verify ty k v
    unfold Evaluator.verify
    split <;> rfl

open Evaluator in
/-- Caching never changes an answer. -/
theorem evaluator_cache_transparent (s : Settings) :
    (∀ steps : List Request, (∀ k e, Request.put k e ∉ steps) →
      (∀ ty source params target index,
        (((ofSettings s).run steps).evaluate ty source params target index).1 =
          ((ofSettings s).evaluate ty source params target index).1) ∧
      ∀ source, (((ofSettings s).run steps).compile source).1 = ((ofSettings s).compile source).1) ∧
    (∀ (pre post : List Request) (k s2 : String) (e : Expr), Parser.parse s2 = .ok e →
      (∀ e', Request.put k e' ∉ post) →
      (∀ i ≤ post.length, k ∈ (((ofSettings s).run (pre ++ [.put k e])).run (post.take i)).exprs.keys) →
      ∀ ty params target index,
        ((((ofSettings s).run (pre ++ [.put k e])).run post).evaluate ty k params target index).1 =
          ((ofSettings s).evaluate ty s2 params target index).1.mapError (Failure.withSource k)) := by
  have hfresh := ofSettings_faithful s
  refine ⟨fun steps hsteps => ?_, fun pre post k s2 e hs2 hput hk ty params target index => ?_⟩
  · have h := hfresh.run hsteps
    refine ⟨h.evaluate_fst hfresh (run_limit _ steps), fun source => ?_⟩
    rw [Faithful.compile_fst h.exprs, Faithful.compile_fst hfresh.exprs]
  -- the key holds `e` to the end, and the pattern cache stays faithful
  let ev := ((ofSettings s).run (pre ++ [.put k e])).run post
  have hput_find : ((ofSettings s).run (pre ++ [.put k e])).exprs.find? k = some e := by
    rw [run_exprs, List.map_append, Cache.run_append]
    exact Cache.store_find?_self _ k e
  have hx : ev.exprs.find? k = some e := run_find?_of_put hput_find hput hk
  have hpats : ev.patterns.Faithful Regex.compile :=
    run_patterns _ (run_patterns _ hfresh.patterns _) _
  have hlimit : ev.limit = (ofSettings s).limit := by
    simp only [ev, run_limit]
  -- a fresh evaluator compiles `s2` to `e` as well
  have hc : ((ofSettings s).compile s2).1 = .ok e := by
    rw [Faithful.compile_fst hfresh.exprs, hs2]
    rfl
  rw [evaluate_of_compile _ _ _ _ _ _ (compile_of_find? hx),
    evaluate_of_compile _ _ _ _ _ _ hc, hlimit,
    (e.eval_stable _ _ _ _ hpats hfresh.patterns).1, outcome_withSource]

theorem evaluator_cache_transparent_compile :
    (∀ k e, Request.put k e ∉ [.compile "a", .clear, .get "a", .compile "b"]) ∧
      (((Evaluator.ofSettings {}).run [.compile "a", .clear, .get "a", .compile "b"]).compile
          "b").1 = ((Evaluator.ofSettings {}).compile "b").1 :=
  ⟨by simp, ((evaluator_cache_transparent {}).1 _ (by simp)).2 "b"⟩

end TypedExpr
