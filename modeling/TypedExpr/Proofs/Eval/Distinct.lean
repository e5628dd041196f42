import TypedExpr.Proofs.Eval.Equality
import TypedExpr.Proofs.Syntax.Reading

/-! Evaluation never puts two equal elements into a set. A set is free of duplicates when no two of
its elements compare equal (`Value.UniqueSets`); a value is distinct when that holds of every set
inside it and every map inside it holds each key once (`Value.Distinct`), as every map does. -/

namespace TypedExpr

namespace Value

def distinctElements : Value → Bool
  | .set items => decide (items.Pairwise fun a b => same a b = false ∧ same b a = false)
  | _ => true

/-- No set inside the value holds two equal elements. -/
abbrev UniqueSets (v : Value) : Prop := everywhere distinctElements v = true

/-- Every map inside the value holds each key once, and every set each element once. -/
structure Distinct (v : Value) : Prop where
  keyed : v.Keyed
  unique : v.UniqueSets

theorem distinct_iff {v : Value} :
    v.Distinct ↔
      distinctKeys v = true ∧ distinctElements v = true ∧ ∀ w ∈ v.children, w.Distinct := by
  have hk := everywhere_iff (p := distinctKeys) (v := v)
  have hu := everywhere_iff (p := distinctElements) (v := v)
  constructor
  · rintro ⟨hkv, huv⟩
    obtain ⟨hk1, hk2⟩ := hk.mp hkv
    obtain ⟨hu1, hu2⟩ := hu.mp huv
    exact ⟨hk1, hu1, fun w hw => ⟨hk2 w hw, hu2 w hw⟩⟩
  · rintro ⟨hk1, hu1, hc⟩
    exact ⟨hk.mpr ⟨hk1, fun w hw => (hc w hw).keyed⟩, hu.mpr ⟨hu1, fun w hw => (hc w hw).unique⟩⟩

theorem Distinct.child {v w : Value} (h : v.Distinct) (hw : w ∈ v.children) : w.Distinct :=
  (distinct_iff.mp h).2.2 w hw

theorem distinct_of_children_eq_nil {v : Value} (h : v.children = []) : v.Distinct := by
  refine distinct_iff.mpr ⟨?_, ?_, by simp [h]⟩ <;>
    cases v <;> simp_all [children, distinctKeys, distinctElements]

@[simp] theorem distinct_list {items : List Value} :
    (Value.list items).Distinct ↔ ∀ v ∈ items, v.Distinct := by
  rw [distinct_iff]
  simp [distinctKeys, distinctElements, children]

theorem Distinct.sublist {items kept : List Value} (h : (Value.set items).Distinct)
    (hs : kept.Sublist items) : (Value.set kept).Distinct := by
  obtain ⟨-, hu, hc⟩ := distinct_iff.mp h
  refine distinct_iff.mpr ⟨rfl, ?_, fun w hw => hc w (hs.subset hw)⟩
  simp only [distinctElements, decide_eq_true_eq] at hu ⊢
  exact hu.sublist hs

theorem distinct_keySet {es : List (String × Value)} (h : (es.map Prod.fst).Nodup) :
    (Value.set (es.map fun (k, _) => .str k)).Distinct := by
  refine distinct_iff.mpr ⟨rfl, ?_, ?_⟩
  · simp only [distinctElements, decide_eq_true_eq, List.pairwise_map]
    exact (List.pairwise_map.mp h).imp fun hne => by simp [same, hne, Ne.symm hne]
  · intro w hw
    obtain ⟨e, -, rfl⟩ := List.mem_map.mp hw
    exact distinct_of_children_eq_nil rfl

theorem Distinct.values {es : List (String × Value)} (h : (Value.map es).Distinct) :
    (Value.list (es.map (·.2))).Distinct :=
  distinct_list.mpr fun _ hw => h.child hw

theorem Distinct.lookup {es : List (String × Value)} (h : (Value.map es).Distinct) (k : String) :
    ((Value.lookup k es).getD .null).Distinct := by
  cases hl : Value.lookup k es with
  | none => exact distinct_of_children_eq_nil rfl
  | some v => exact h.child (List.mem_map.mpr ⟨(k, v), mem_of_lookup hl, rfl⟩)

theorem Distinct.insertAt {es : List (String × Value)} {v : Value} (h : (Value.map es).Distinct)
    (hv : v.Distinct) (k : String) : (Value.map (insertAt k v es)).Distinct := by
  obtain ⟨hk, -, hc⟩ := distinct_iff.mp h
  refine distinct_iff.mpr ⟨?_, rfl, ?_⟩
  · simp only [distinctKeys, decide_eq_true_eq] at hk ⊢
    exact nodup_insertAt hk k v
  · intro w hw
    obtain ⟨e, he, rfl⟩ := List.mem_map.mp hw
    rcases mem_insertAt he with rfl | he
    · exact hv
    · exact hc _ (List.mem_map.mpr ⟨e, he, rfl⟩)

/-! ### The built-in operations -/

theorem elementAt_mem {recv w : Value} {items : List Value} {i : Int64}
    (h : elementAt recv items i = .ok w) : w ∈ items := by
  simp only [elementAt] at h
  split at h
  · rename_i v hv
    cases h
    split at hv
    · cases hv
    · exact List.mem_of_getElem? hv
  · cases h

theorem charAt_children {s : String} {i : Int64} {w : Value} (h : charAt s i = .ok w) :
    w.children = [] := by
  simp only [charAt] at h
  split at h <;> cases h
  rfl

theorem property_distinct {recv w : Value} {name : String} (hr : recv.Distinct)
    (h : recv.property name = .ok w) : w.Distinct := by
  unfold property at h
  split at h
  · cases h
  · split at h
    · -- an entry under the name is read back
      rename_i hv
      cases h
      exact hr.child (List.mem_map.mpr ⟨_, mem_of_lookup hv, rfl⟩)
    · split_ifs at h <;> cases h
      · exact distinct_of_children_eq_nil rfl
      · exact distinct_of_children_eq_nil rfl
      · exact distinct_keySet hr.keyed.nodup
      · exact hr.values
      · exact distinct_of_children_eq_nil rfl
  · split at h <;> cases h <;> exact distinct_of_children_eq_nil rfl

theorem index_distinct {recv i w : Value} (hr : recv.Distinct) (h : recv.index i = .ok w) :
    w.Distinct := by
  unfold index at h
  split at h
  · cases h
  · exact hr.child (elementAt_mem h)
  · exact hr.child (elementAt_mem h)
  · cases h
    exact hr.lookup _
  · cases h
    exact hr.lookup _
  · exact distinct_of_children_eq_nil (charAt_children h)
  · cases h

theorem stringMethod_shape (pats : Patterns) (s m : String) (args : List Value) {w : Value}
    (h : (stringMethod pats s m args).1 = .ok w) :
    (∃ t, w = .str t) ∨ (∃ n, w = .int n) ∨ (∃ b, w = .bool b) ∨ (∃ c, w = .char c) ∨
      ∃ ts : List String, w = .list (ts.map .str) := by
  unfold stringMethod at h
  split at h
  all_goals simp only [bind, Except.bind, pure, Except.pure, arity, charAt,
    Except.map, Functor.map, throw, throwThe, MonadExceptOf.throw] at h
  all_goals grind [ofCount]

theorem stringMethod_distinct {pats : Patterns} {s m : String} {args : List Value} {w : Value}
    (h : (stringMethod pats s m args).1 = .ok w) : w.Distinct := by
  rcases stringMethod_shape pats s m args h with
    ⟨_, rfl⟩ | ⟨_, rfl⟩ | ⟨_, rfl⟩ | ⟨_, rfl⟩ | ⟨ts, rfl⟩
  any_goals exact distinct_of_children_eq_nil rfl
  refine distinct_list.mpr fun v hv => ?_
  obtain ⟨t, -, rfl⟩ := List.mem_map.mp hv
  exact distinct_of_children_eq_nil rfl

theorem eq_of_checked {x : Except Fault Unit} {v w : Value} (h : (x >>= fun _ => pure v) = .ok w) :
    w = v := by
  obtain ⟨_, -, h⟩ := Parser.bind_eq_ok.mp h
  cases h
  rfl

theorem commonMethod_children {recv w : Value} {m : String} {args : List Value}
    (h : commonMethod recv m args = some (.ok w)) : w.children = [] := by
  unfold commonMethod at h
  -- a rendering, a comparison or a count, each after the arity check
  split_ifs at h
  · rw [eq_of_checked (Option.some.inj h)]
    rfl
  · rw [eq_of_checked (Option.some.inj h)]
    rfl
  -- the size and emptiness tests exist only for receivers with a size
  · split at h
    · rw [eq_of_checked (Option.some.inj h)]
      rfl
    · cases h
  · split at h
    · rw [eq_of_checked (Option.some.inj h)]
      rfl
    · cases h
  · split at h <;> cases h

theorem numberMethod_children {recv w : Value} {m : String} {args : List Value}
    (h : numberMethod recv m args = .ok w) : w.children = [] := by
  unfold numberMethod at h
  split at h
  · obtain ⟨_, -, h⟩ := Parser.bind_eq_ok.mp h
    split at h <;> cases h
    rfl
  · obtain ⟨_, -, h⟩ := Parser.bind_eq_ok.mp h
    split at h <;> cases h
    rfl
  · obtain ⟨_, -, h⟩ := Parser.bind_eq_ok.mp h
    split at h <;> cases h
    rfl
  · cases h

theorem collectionMethod_distinct {recv w : Value} {items : List Value} {m : String}
    {args : List Value} (hi : ∀ v ∈ items, v.Distinct)
    (h : collectionMethod recv items m args = .ok w) : w.Distinct := by
  unfold collectionMethod at h
  split at h
  · rw [eq_of_checked h]
    exact distinct_of_children_eq_nil rfl
  · -- `get` reads an element
    obtain ⟨_, -, h⟩ := Parser.bind_eq_ok.mp h
    obtain ⟨_, -, h⟩ := Parser.bind_eq_ok.mp h
    exact hi _ (elementAt_mem h)
  · rw [eq_of_checked h]
    split <;> exact distinct_of_children_eq_nil rfl
  · cases h

theorem mapMethod_distinct {recv w : Value} {es : List (String × Value)} {m : String}
    {args : List Value} (hr : (Value.map es).Distinct) (h : mapMethod recv es m args = .ok w) :
    w.Distinct := by
  unfold mapMethod at h
  split at h
  · obtain ⟨_, -, h⟩ := Parser.bind_eq_ok.mp h
    obtain ⟨_, -, h⟩ := Parser.bind_eq_ok.mp h
    cases h
    exact hr.lookup _
  · obtain ⟨_, -, h⟩ := Parser.bind_eq_ok.mp h
    obtain ⟨_, -, h⟩ := Parser.bind_eq_ok.mp h
    cases h
    exact distinct_of_children_eq_nil rfl
  · rw [eq_of_checked h]
    exact distinct_keySet hr.keyed.nodup
  · rw [eq_of_checked h]
    exact distinct_keySet hr.keyed.nodup
  · rw [eq_of_checked h]
    exact hr.values
  · cases h

theorem call_distinct {pats : Patterns} {recv w : Value} {m : String} {args : List Value}
    (hr : recv.Distinct) (h : (call pats recv m args).1 = .ok w) : w.Distinct := by
  unfold call at h
  split at h
  · cases h
  · split at h
    · rename_i hc
      cases h
      exact distinct_of_children_eq_nil (commonMethod_children hc)
    · split at h
      · exact stringMethod_distinct h
      · exact stringMethod_distinct h
      · exact collectionMethod_distinct (fun _ hv => hr.child hv) h
      · exact collectionMethod_distinct (fun _ hv => hr.child hv) h
      · exact mapMethod_distinct hr h
      -- numbers have a table of their own, and no other value has methods
      case h_6 | h_7 | h_8 =>
        dsimp only at h
        exact distinct_of_children_eq_nil (numberMethod_children h)
      case h_9 => cases h

theorem map_ok_children {α : Type} {r : Except Fault α} {f : α → Value} {w : Value}
    (hf : ∀ a, (f a).children = []) (h : r.map f = .ok w) : w.children = [] := by
  cases r with
  | error e => cases h
  | ok a =>
    cases h
    exact hf a

theorem compareWith_children {op : BinOp} {l r w : Value} (h : compareWith op l r = .ok w) :
    w.children = [] := by
  unfold compareWith at h
  obtain ⟨o, -, h⟩ := Parser.bind_eq_ok.mp h
  split at h
  · cases h
    rfl
  · split at h <;> cases h <;> rfl

theorem arith_children {op : BinOp} {l r w : Value} (h : arith op l r = .ok w) :
    w.children = [] := by
  unfold arith at h
  split at h
  · cases h
    rfl
  -- operands promoted to one kind of number give a number of that kind
  · split at h
    · cases h
    · split at h
      · exact map_ok_children (fun _ => rfl) h
      · cases h
    · split at h
      · exact map_ok_children (fun _ => rfl) h
      · cases h
    · split at h
      · cases h
        rfl
      · cases h

theorem binary_children {op : BinOp} {l r w : Value} (h : binary op l r = .ok w) :
    w.children = [] := by
  unfold binary at h
  split at h
  case h_5 | h_6 | h_7 | h_8 => exact compareWith_children h
  case h_11 => exact arith_children h
  case h_3 | h_4 => exact map_ok_children (fun _ => rfl) h
  all_goals
    cases h
    rfl

theorem unary_children {op : UnOp} {v w : Value} (h : unary op v = .ok w) : w.children = [] := by
  unfold unary at h
  split at h
  case h_2 =>
    split at h <;> cases h
    rfl
  all_goals cases h <;> rfl

theorem Literal.value_children (l : Literal) : l.value.children = [] := by
  cases l <;> rfl

end Value

/-- Every value a scope holds is distinct. -/
structure Scope.Distinct (sc : Scope) : Prop where
  target : sc.target.Distinct
  params : sc.params.Distinct
  root : sc.root.Distinct
  this : sc.this.Distinct

theorem Scope.Distinct.var? {sc : Scope} (h : sc.Distinct) {name : String} {v : Value}
    (hv : sc.var? name = some v) : v.Distinct := by
  unfold Scope.var? at hv
  split at hv <;> cases hv
  · exact h.this
  · exact h.root
  · exact h.target
  · exact h.params
  · -- the index of the current element is an integer or null
    split
    · split <;> exact Value.distinct_of_children_eq_nil rfl
    · exact Value.distinct_of_children_eq_nil rfl

theorem Scope.Distinct.withThis {sc : Scope} (h : sc.Distinct) {item : Value}
    (hi : item.Distinct) : Scope.Distinct { sc with this := item } :=
  ⟨h.target, h.params, h.root, hi⟩

theorem Scope.distinct_ofTarget {target params : Value} (ht : target.Distinct)
    (hp : params.Distinct) (index : Option Nat) : (Scope.ofTarget target params index).Distinct :=
  ⟨ht, hp, ht, ht⟩

theorem Eval.elements_distinct {coll : Value} {items : List Value} (hc : coll.Distinct)
    (h : Eval.elements coll = .ok items) : ∀ v ∈ items, v.Distinct := by
  intro v hv
  unfold Eval.elements at h
  split at h <;> cases h
  all_goals exact hc.child hv

namespace Eval

variable {α β : Type}

def Ensures (P : α → Prop) (m : Eval α) : Prop := ∀ p a, (m.run.run p).1 = .ok a → P a

namespace Ensures

variable {P Q : α → Prop}

theorem pure {a : α} (h : P a) : Ensures P (Pure.pure a : Eval α) := fun _ _ he => by
  cases he
  exact h

theorem throw (e : Fault) : Ensures P (MonadExcept.throw e : Eval α) := fun _ _ he => by cases he

theorem any (m : Eval α) : Ensures (fun _ => True) m := fun _ _ _ => trivial

theorem mono {m : Eval α} (h : Ensures P m) (hPQ : ∀ a, P a → Q a) : Ensures Q m :=
  fun p a ha => hPQ a (h p a ha)

theorem lift {r : Except Fault α} (h : ∀ a, r = .ok a → P a) : Ensures P (Eval.lift r) := by
  cases r with
  | error e => exact throw e
  | ok a => exact pure (h a rfl)

theorem bind {P : β → Prop} {x : Eval α} {f : α → Eval β} (hx : Ensures Q x)
    (hf : ∀ a, Q a → Ensures P (f a)) : Ensures P (x >>= f) := by
  intro p b h
  rcases hr : (x.run.run p).1 with e | a
  · rw [run_bind_error hr] at h
    cases h
  · rw [run_bind_ok hr] at h
    exact hf a (hx p a hr) _ b h

theorem ite {c : Prop} [Decidable c] {x y : Eval α} (hx : Ensures P x) (hy : Ensures P y) :
    Ensures P (if c then x else y) := by
  split
  · exact hx
  · exact hy

theorem withPatterns {P : Value → Prop} {f : Patterns → Except Fault Value × Patterns}
    (hf : ∀ p a, (f p).1 = .ok a → P a) : Ensures P (Eval.withPatterns f) := by
  intro p a h
  rw [withPatterns_run] at h
  exact hf p a h

theorem mapM {f : β → Eval α} : ∀ {l : List β}, (∀ b ∈ l, Ensures P (f b)) →
    Ensures (fun as => ∀ a ∈ as, P a) (l.mapM f)
  | [], _ => pure (by simp)
  | b :: l, h => by
    rw [List.mapM_cons]
    exact bind (h b List.mem_cons_self) fun a ha =>
      bind (mapM fun x hx => h x (List.mem_cons_of_mem b hx)) fun as has =>
        pure (List.forall_mem_cons.mpr ⟨ha, has⟩)

theorem filterAuxM {p : β → Eval Bool} :
    ∀ (l acc : List β), Ensures (fun r => r.Sublist (l.reverse ++ acc)) (List.filterAuxM p l acc)
  | [], acc => pure (by simp)
  | b :: l, acc => by
    rw [List.filterAuxM]
    refine bind (any _) fun keep _ => (filterAuxM l _).mono fun r hr => ?_
    cases keep
    · exact hr.trans (by simp)
    · simpa using hr

theorem filterM {p : β → Eval Bool} (l : List β) : Ensures (fun r => r.Sublist l) (l.filterM p) :=
  bind (filterAuxM l []) fun kept h => pure (by simpa using h.reverse)

end Ensures

section Distinctness

variable (limit : Nat)

theorem receiver_distinct {b : Option Expr}
    (hb : ∀ x ∈ b, ∀ sc d, sc.Distinct → Ensures Value.Distinct (expr limit sc d x)) {sc : Scope}
    (hsc : sc.Distinct) (d : Nat) : Ensures Value.Distinct (receiver limit sc d b) := by
  cases b with
  | none => exact Ensures.pure hsc.this
  | some x =>
    rw [receiver]
    exact hb x rfl sc d hsc

theorem exprs_distinct {items : List Expr}
    (h : ∀ a ∈ items, ∀ sc d, sc.Distinct → Ensures Value.Distinct (expr limit sc d a))
    {sc : Scope} (hsc : sc.Distinct) (d : Nat) :
    Ensures (fun vs => ∀ v ∈ vs, v.Distinct) (exprs limit sc d items) := by
  induction items with
  | nil => exact Ensures.pure (by simp)
  | cons a rest ih =>
    rw [exprs]
    exact Ensures.bind (h a List.mem_cons_self sc d hsc) fun v hv =>
      Ensures.bind (ih fun x hx => h x (List.mem_cons_of_mem a hx)) fun vs hvs =>
        Ensures.pure (List.forall_mem_cons.mpr ⟨hv, hvs⟩)

theorem pairs_distinct {es : List (Expr × Expr)}
    (h : ∀ e ∈ es, ∀ sc d, sc.Distinct → Ensures Value.Distinct (expr limit sc d e.2))
    {sc : Scope} (hsc : sc.Distinct) (d : Nat) :
    ∀ acc, (Value.map acc).Distinct →
      Ensures (fun kvs => (Value.map kvs).Distinct) (pairs limit sc d acc es) := by
  induction es with
  | nil => exact fun acc hacc => Ensures.pure hacc
  | cons kv rest ih =>
    intro acc hacc
    obtain ⟨key, val⟩ := kv
    rw [pairs]
    exact Ensures.bind (Ensures.any _) fun _ _ =>
      Ensures.bind (h (key, val) List.mem_cons_self sc d hsc) fun v hv =>
        ih (fun x hx => h x (List.mem_cons_of_mem _ hx)) _ (hacc.insertAt hv _)

theorem expr_distinct (e : Expr) :
    ∀ sc d, sc.Distinct → Ensures Value.Distinct (expr limit sc d e) := by
  induction e using Expr.induction with
  | lit l =>
    intro sc d _
    rw [expr]
    exact Ensures.ite (Ensures.throw _)
      (Ensures.pure (Value.distinct_of_children_eq_nil (Value.Literal.value_children l)))
  | var n =>
    intro sc d hsc
    rw [expr]
    refine Ensures.ite (Ensures.throw _) ?_
    split
    · exact Ensures.pure (hsc.var? ‹_›)
    · exact Ensures.throw _
  | prop b n hb =>
    intro sc d hsc
    rw [expr]
    exact Ensures.ite (Ensures.throw _) <|
      Ensures.bind (receiver_distinct limit hb hsc _) fun recv hr =>
        Ensures.lift fun _ hw => Value.property_distinct hr hw
  | index b i hb _ =>
    intro sc d hsc
    rw [expr]
    exact Ensures.ite (Ensures.throw _) <| Ensures.bind (hb sc _ hsc) fun recv hr =>
      Ensures.bind (Ensures.any _) fun idx _ => Ensures.lift fun _ hw => Value.index_distinct hr hw
  | call b m args hb _ =>
    intro sc d hsc
    rw [expr]
    exact Ensures.ite (Ensures.throw _) <|
      Ensures.bind (receiver_distinct limit hb hsc _) fun recv hr =>
        Ensures.bind (Ensures.any _) fun vals _ =>
          Ensures.withPatterns fun _ _ hw => Value.call_distinct hr hw
  | project b m hb hm =>
    intro sc d hsc
    rw [expr]
    -- the mapping sees each element of the collection as the current element
    exact Ensures.ite (Ensures.throw _) <| Ensures.bind (hb sc _ hsc) fun coll hc =>
      Ensures.bind (Ensures.lift fun _ h => elements_distinct hc h) fun items hitems =>
        Ensures.bind (Ensures.mapM fun item hitem => hm _ _ (hsc.withThis (hitems item hitem)))
          fun mapped hmapped => Ensures.pure (Value.distinct_list.mpr hmapped)
  | select b c hb _ =>
    intro sc d hsc
    rw [expr]
    refine Ensures.ite (Ensures.throw _) <| Ensures.bind (hb sc _ hsc) fun coll hc =>
      Ensures.bind (Ensures.lift fun _ h => h) fun items hitems =>
        Ensures.bind (Ensures.filterM _) fun kept hkept => Ensures.pure ?_
    -- a set keeps a sublist of its elements; any other collection gives a list of them
    split
    · simp only [elements, Except.ok.injEq] at hitems
      subst hitems
      exact hc.sublist hkept
    · exact Value.distinct_list.mpr fun v hv => elements_distinct hc hitems v (hkept.subset hv)
  | binary op l r _ _ =>
    intro sc d _
    rw [expr]
    have hleaf (t : Bool) : (Value.bool t).Distinct := Value.distinct_of_children_eq_nil rfl
    exact Ensures.ite (Ensures.throw _) <| Ensures.bind (Ensures.any _) fun left _ =>
      Ensures.ite (Ensures.pure (hleaf _)) <| Ensures.ite (Ensures.pure (hleaf _)) <|
        Ensures.bind (Ensures.any _) fun right _ =>
          Ensures.lift fun _ hw => Value.distinct_of_children_eq_nil (Value.binary_children hw)
  | unary op a _ =>
    intro sc d _
    rw [expr]
    exact Ensures.ite (Ensures.throw _) <| Ensures.bind (Ensures.any _) fun v _ =>
      Ensures.lift fun _ hw => Value.distinct_of_children_eq_nil (Value.unary_children hw)
  | cond c a b _ ha hb =>
    intro sc d hsc
    rw [expr]
    exact Ensures.ite (Ensures.throw _) <| Ensures.bind (Ensures.any _) fun v _ =>
      Ensures.ite (ha sc _ hsc) (hb sc _ hsc)
  | list items h =>
    intro sc d hsc
    rw [expr]
    exact Ensures.ite (Ensures.throw _) <| Ensures.bind (exprs_distinct limit h hsc _) fun vs hvs =>
      Ensures.pure (Value.distinct_list.mpr hvs)
  | map es h =>
    intro sc d hsc
    rw [expr]
    exact Ensures.ite (Ensures.throw _) <|
      Ensures.bind (pairs_distinct limit (fun e he => (h e he).2) hsc _ []
        (Value.distinct_of_children_eq_nil rfl)) fun kvs hkvs => Ensures.pure hkvs

end Distinctness

end Eval

/-- From a keyed target and keyed parameters in which no set holds two equal elements, every
evaluation that succeeds gives such a value, whatever the tree, the depth limit and the index. -/
theorem Expr.eval_keeps_sets_distinct (e : Expr) (limit : Nat) (index : Option Nat)
    (pats : Patterns) {target : KeyedValue} {params : List KeyedValue} {v : Value}
    (hut : target.val.UniqueSets) (hp : ∀ p ∈ params, p.val.UniqueSets)
    (h : (e.eval limit (Scope.ofTarget target (.list (params.map KeyedValue.val)) index) pats).1 =
      .ok v) :
    v.UniqueSets ∧ v.Keyed := by
  have hps : (Value.list (params.map KeyedValue.val)).Distinct := by
    refine Value.distinct_list.mpr fun w hw => ?_
    obtain ⟨p, hmem, rfl⟩ := List.mem_map.mp hw
    exact ⟨p.keyed, hp p hmem⟩
  have hsc := Scope.distinct_ofTarget ⟨target.keyed, hut⟩ hps index
  have hv := Eval.expr_distinct limit e _ 0 hsc pats v h
  exact ⟨hv.unique, hv.keyed⟩

theorem Expr.eval_keeps_sets_distinct_keySet :
    let target : KeyedValue := ⟨.map [("a", .int 1), ("b", .set [.int 1, .int 2])], by decide⟩
    let params : List KeyedValue := [⟨.set [.null], by decide⟩]
    target.val.UniqueSets ∧ (∀ p ∈ params, p.val.UniqueSets) ∧
      ((Expr.select (.call none "keySet" []) (.binary .ne (.var "this") (.lit (.str "a")))).eval 8
          (Scope.ofTarget target (.list (params.map KeyedValue.val)) none)
          (Cache.empty .unbounded)).1 = .ok (.set [.str "b"]) ∧
      (Value.set [.str "b"]).UniqueSets ∧ (Value.set [.str "b"]).Keyed := by
  intro target params
  have hut : target.val.UniqueSets := by decide
  have hp : ∀ p ∈ params, p.val.UniqueSets := by decide
  have h : ((Expr.select (.call none "keySet" []) (.binary .ne (.var "this") (.lit (.str "a")))).eval
      8 (Scope.ofTarget target (.list (params.map KeyedValue.val)) none)
        (Cache.empty .unbounded)).1 = .ok (.set [.str "b"]) := by rfl
  exact ⟨hut, hp, h, Expr.eval_keeps_sets_distinct _ 8 none _ hut hp h⟩

end TypedExpr
