import Mathlib.Data.List.Basic
import TypedExpr.Proofs.Eval.Session

/-! Taking a result out as a shape, against checking it with the shape's type descriptor. The
descriptor accepts null everywhere, also inside containers, while a shape takes null only where it
is optional or any value. -/

namespace TypedExpr

namespace Shape

/-- Whether every null inside the value stands where the shape allows one: where the shape is
optional, or anywhere inside `value`. -/
def nullsAllowed : Shape → Value → Bool
  | .value, _ => true
  | .option _, .null => true
  | .option s, v => nullsAllowed s v
  | .list s, .list items => items.all (nullsAllowed s)
  | .set s, .set items => items.all (nullsAllowed s)
  | .map s, .map entries => entries.all fun e => nullsAllowed s e.2
  | _, .null => false
  | _, _ => true

end Shape

namespace Ty

@[simp] theorem accepts_null (t : Ty) : t.accepts .null = true := by
  cases t <;> rfl

@[simp] theorem accepts_any (v : Value) : Ty.any.accepts v = true := by
  cases v <;> rfl

theorem isConstrained_eq_false {t : Ty} : t.isConstrained = false ↔ t = .any := by
  cases t <;> simp [isConstrained]

@[simp] theorem acceptsAll_any (items : List Value) : acceptsAll .any items = true := by
  induction items with
  | nil => rfl
  | cons v rest ih => simp [acceptsAll, ih]

theorem acceptsEntries_eq (t : Ty) (entries : List (String × Value)) :
    acceptsEntries t entries = acceptsAll t (entries.map Prod.snd) := by
  induction entries with
  | nil => rfl
  | cons e rest ih =>
    obtain ⟨k, v⟩ := e
    simp [acceptsEntries, acceptsAll, ih]

end Ty

namespace Shape

theorem fitsEntries_eq (s : Shape) (entries : List (String × Value)) :
    fitsEntries s entries = fitsAll s (entries.map Prod.snd) := by
  induction entries with
  | nil => simp [fitsEntries, fitsAll]
  | cons e rest ih =>
    obtain ⟨k, v⟩ := e
    simp [fitsEntries, fitsAll, ih]

theorem fitsAll_eq {s : Shape} (h : ∀ v, s.fits v = (s.ty.accepts v && s.nullsAllowed v))
    (items : List Value) :
    fitsAll s items = (Ty.acceptsAll s.ty items && items.all s.nullsAllowed) := by
  induction items with
  | nil => simp [fitsAll, Ty.acceptsAll]
  | cons v rest ih =>
    simp only [fitsAll, Ty.acceptsAll, List.all_cons, h, ih]
    cases s.ty.accepts v <;> cases s.nullsAllowed v <;> simp

theorem fitsAll_eq_container {s : Shape}
    (h : ∀ v, s.fits v = (s.ty.accepts v && s.nullsAllowed v)) (items : List Value) :
    fitsAll s items = ((!s.ty.isConstrained || Ty.acceptsAll s.ty items) &&
      items.all s.nullsAllowed) := by
  rw [fitsAll_eq h]
  cases hc : s.ty.isConstrained
  · rw [Ty.isConstrained_eq_false.mp hc]
    simp
  · simp

theorem fits_eq (s : Shape) (v : Value) : s.fits v = (s.ty.accepts v && s.nullsAllowed v) := by
  -- on the shape: an optional shape takes null and passes the rest on, a container checks its
  -- elements against the inner shape, whose fact is the induction hypothesis
  induction s generalizing v with
  | bool | int | float | dec | str | char | date | dateTime | value =>
    cases v <;> simp [fits, Ty.accepts, nullsAllowed, ty]
  | option s ih =>
    cases v
    case null => simp [fits, nullsAllowed]
    all_goals simp only [fits, ty, nullsAllowed, ih]
  | list s ih =>
    cases v
    case list items => simp only [fits, ty, Ty.accepts, nullsAllowed, fitsAll_eq_container ih]
    all_goals simp [fits, Ty.accepts, nullsAllowed, ty]
  | set s ih =>
    cases v
    case set items => simp only [fits, ty, Ty.accepts, nullsAllowed, fitsAll_eq_container ih]
    all_goals simp [fits, Ty.accepts, nullsAllowed, ty]
  | map s ih =>
    cases v
    case map entries =>
      simp only [fits, ty, Ty.accepts, nullsAllowed, fitsEntries_eq, Ty.acceptsEntries_eq,
        fitsAll_eq_container ih, List.all_map]
      rfl
    all_goals simp [fits, Ty.accepts, nullsAllowed, ty]

end Shape

namespace Evaluator

variable {ev : Evaluator} {shape : Shape} {ty : Ty} {source : String} {params : List Value}
  {target : Value} {index : Option Nat} {v : Value}

theorem verify_eq (ty : Ty) (source : String) (v : Value) :
    verify ty source v = if ty.accepts v then .ok v else .error (.typeMismatch source ty v.ty) := by
  by_cases ha : ty.accepts v = true
  · simp [verify, ha]
  · have hn : v.isNull = false := by
      cases v <;> simp_all [Value.isNull]
    have hc : ty.isConstrained = true := by
      cases ty <;> simp_all [Ty.isConstrained]
    simp [verify, ha, hn, hc]

theorem accepts_of_evaluate (h : (ev.evaluate ty source params target index).1 = .ok v) :
    ty.accepts v = true := by
  rcases hc : (ev.compile source).1 with f | e
  · rw [evaluate_of_compile_error ev ty source params target index hc] at h
    cases h
  · rw [evaluate_of_compile ev ty source params target index hc] at h
    rcases hr : (e.eval ev.limit (Scope.ofTarget target (.list params) index) ev.patterns).1 with
      f | w
    · simp [hr, Except.mapError, Except.bind] at h
    · simp only [hr, Except.mapError, Except.bind, verify_eq] at h
      by_cases ha : ty.accepts w = true
      · rw [if_pos ha] at h
        cases h
        exact ha
      · rw [if_neg ha] at h
        cases h

theorem typed_of_evaluate (h : (ev.evaluate shape.ty source params target index).1 = .ok v) :
    ev.typed shape source params target index =
      (if v.isNull then .ok none
        else if shape.nullsAllowed v then .ok (some v)
        else .error (.typeMismatch source shape.ty v.ty),
        (ev.evaluate shape.ty source params target index).2) := by
  have ha := accepts_of_evaluate h
  unfold typed
  rcases he : ev.evaluate shape.ty source params target index with ⟨r, ev'⟩
  rw [he] at h
  cases h
  cases v
  case null => rfl
  all_goals
    simp only [Shape.fits_eq, ha, Value.isNull, Bool.true_and, Bool.false_eq_true, ↓reduceIte]
    split <;> rfl

end Evaluator

/-- Taking a result out agrees with the descriptor's check except on nulls: a value has a shape
exactly when the shape's descriptor accepts it and every null inside it stands where the shape is
optional. -/
theorem extraction_iff_accepted_nulls_allowed (shape : Shape) :
    (∀ v : Value, shape.fits v = true ↔
      shape.ty.accepts v = true ∧ shape.nullsAllowed v = true) ∧
    ∀ (ev : Evaluator) (source : String) (params : List Value) (target : Value)
      (index : Option Nat) (v : Value),
      (ev.evaluate shape.ty source params target index).1 = .ok v →
      (ev.typed shape source params target index).1 =
        if v.isNull then .ok none
        else if shape.nullsAllowed v then .ok (some v)
        else .error (.typeMismatch source shape.ty v.ty) := by
  refine ⟨fun v => ?_, fun ev source params target index v h => ?_⟩
  · rw [Shape.fits_eq, Bool.and_eq_true]
  · rw [Evaluator.typed_of_evaluate h]

theorem extraction_iff_accepted_nulls_allowed_optional :
    let ev : Evaluator := { Evaluator.ofSettings {} with
      exprs := (Cache.empty .unbounded).put "xs" (.list [.lit (.int 1), .lit .null]) }
    let shape : Shape := .list (.option .int)
    let v : Value := .list [.int 1, .null]
    (ev.evaluate shape.ty "xs" [] .null none).1 = .ok v ∧
      (ev.typed shape "xs" [] .null none).1 =
        if v.isNull then .ok none
        else if shape.nullsAllowed v then .ok (some v)
        else .error (.typeMismatch "xs" shape.ty v.ty) := by
  intro ev shape v
  have h : (ev.evaluate shape.ty "xs" [] .null none).1 = .ok v := rfl
  exact ⟨h, (extraction_iff_accepted_nulls_allowed shape).2 ev "xs" [] .null none v h⟩

theorem accepted_null_element_mismatch :
    let ev : Evaluator := { Evaluator.ofSettings {} with
      exprs := (Cache.empty .unbounded).put "xs" (.list [.lit (.int 1), .lit .null]) }
    (ev.evaluate (.list .int) "xs" [] .null none).1 = .ok (.list [.int 1, .null]) ∧
      (ev.typed (.list .int) "xs" [] .null none).1 =
        .error (.typeMismatch "xs" (.list .int) (.list .int)) := by
  intro ev
  have h : (ev.evaluate (Shape.list .int).ty "xs" [] .null none).1 = .ok (.list [.int 1, .null]) :=
    rfl
  refine ⟨h, ?_⟩
  rw [Evaluator.typed_of_evaluate h]
  rfl

end TypedExpr
