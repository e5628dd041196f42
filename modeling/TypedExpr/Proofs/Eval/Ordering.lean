import TypedExpr.Proofs.Eval.Equality

/-! The comparison operators `<`, `<=`, `>` and `>=`: comparing the other way round by the flipped
operator gives the same answer, and ordered values are below, equal to or above each other. -/

namespace TypedExpr

namespace BinOp

/-- The comparison with its sides exchanged: `<` and `>` trade places, as do `<=` and `>=`. -/
def flip : BinOp → BinOp
  | .lt => .gt
  | .gt => .lt
  | .le => .ge
  | .ge => .le
  | op => op

def admits : BinOp → Ordering → Bool
  | .lt, o => o == .lt
  | .le, o => o != .gt
  | .gt, o => o == .gt
  | .ge, o => o != .lt
  | _, _ => false

theorem admits_flip (op : BinOp) (o : Ordering) : op.flip.admits o.swap = op.admits o := by
  cases op <;> cases o <;> rfl

end BinOp

/-! ### The orders of the kinds of value -/

theorem charsCompare_swap (a b : List Char) : charsCompare b a = (charsCompare a b).swap := by
  induction a generalizing b with
  | nil => cases b <;> rfl
  | cons c cs ih =>
    cases b with
    | nil => rfl
    | cons d ds =>
      have hdc : compare d.val c.val = (compare c.val d.val).swap := Std.OrientedCmp.eq_swap
      simp only [charsCompare]
      rw [hdc, ih ds]
      cases compare c.val d.val <;> rfl

theorem char_compare_eq_iff {c d : Char} : compare c.val d.val = .eq ↔ c = d := by
  rw [Std.LawfulEqCmp.compare_eq_iff_eq]
  exact ⟨Char.ext, congrArg Char.val⟩

theorem charsCompare_eq_iff {a b : List Char} : charsCompare a b = .eq ↔ a = b := by
  induction a generalizing b with
  | nil => cases b <;> simp [charsCompare]
  | cons c cs ih =>
    cases b with
    | nil => simp [charsCompare]
    | cons d ds =>
      simp only [charsCompare, List.cons.injEq, ← char_compare_eq_iff]
      cases compare c.val d.val <;> simp [ih]

namespace Date

theorem cmp_swap (a b : Date) : b.cmp a = (a.cmp b).swap := by
  simp only [cmp, Ordering.swap_then, Int.compare_swap, Nat.compare_swap]

theorem cmp_eq_iff {a b : Date} : a.cmp b = .eq ↔ a = b := by
  obtain ⟨y, m, d⟩ := a
  obtain ⟨y', m', d'⟩ := b
  simp [cmp, Ordering.then_eq_eq]

end Date

namespace DateTime

theorem cmp_swap (a b : DateTime) : b.cmp a = (a.cmp b).swap := by
  simp only [cmp, Ordering.swap_then, Date.cmp_swap a.date, Nat.compare_swap]

theorem cmp_eq_iff {a b : DateTime} : a.cmp b = .eq ↔ a = b := by
  obtain ⟨d, h, m, s, n⟩ := a
  obtain ⟨d', h', m', s', n'⟩ := b
  simp [cmp, Ordering.then_eq_eq, Date.cmp_eq_iff]

end DateTime

namespace Promoted

def cmp : Promoted → Option Ordering
  | .int a b => some (compare a.toInt b.toInt)
  | .dec a b => some (a.cmp b)
  | .float a b => Binary64.compare? a b

theorem cmp_swap (p : Promoted) : p.swap.cmp = p.cmp.map Ordering.swap := by
  cases p with
  | int a b => exact congrArg some (Int.compare_swap _ _).symm
  | dec a b => exact congrArg some (Decimal.cmp_swap a b)
  | float a b => exact Binary64.compare?_swap a b

theorem cmp_eq_iff {p : Promoted} {o : Ordering} (h : p.cmp = some o) :
    o = .eq ↔ p.equal = true := by
  cases p with
  | int a b =>
    cases h
    simp [equal, Int64.toInt_inj]
  | dec a b =>
    cases h
    simp [equal, Decimal.eqv]
  | float a b => simp [equal, Binary64.eq, show Binary64.compare? a b = some o from h]

end Promoted

namespace Value

/-! ### Ordering two values -/

theorem order_of_promote {op : BinOp} {l r : Value} {p : Promoted} (h : promote l r = some p) :
    order op l r = .ok p.cmp := by
  unfold order
  rw [h]
  cases p <;> rfl

theorem order_swap (op op' : BinOp) (l r : Value) :
    order op' r l =
      ((order op l r).map (Option.map Ordering.swap)).mapError fun _ => badOperands op' r l := by
  cases hp : promote l r with
  | some p =>
    have hq : promote r l = some p.swap := by rw [promote_swap, hp]; rfl
    rw [order_of_promote hq, order_of_promote hp, Promoted.cmp_swap]
    rfl
  | none =>
    have hq : promote r l = none := by rw [promote_swap, hp]; rfl
    unfold order
    rw [hp, hq]
    dsimp only
    -- the ordered pairs of kinds: each is reversed by the swap law of its own order
    split
    case h_1 a b => exact congrArg (Except.ok ∘ some) (charsCompare_swap b.toList a.toList)
    case h_2 a b =>
      exact congrArg (Except.ok ∘ some) (Std.OrientedCmp.eq_swap : compare a.val b.val = _)
    case h_3 a b => exact congrArg (Except.ok ∘ some) (charsCompare_swap [b] a.toList)
    case h_4 a b => exact congrArg (Except.ok ∘ some) (charsCompare_swap b.toList [a])
    case h_5 a b => exact congrArg (Except.ok ∘ some) (Std.OrientedCmp.eq_swap : compare a b = _)
    case h_6 a b => exact congrArg (Except.ok ∘ some) (Date.cmp_swap b a)
    case h_7 a b => exact congrArg (Except.ok ∘ some) (DateTime.cmp_swap b a)
    -- any other pair has no order either way round
    case h_8 hss hcc hsc hcs hbb hdd htt =>
      split
      case h_1 => exact (hss _ _ rfl rfl).elim
      case h_2 => exact (hcc _ _ rfl rfl).elim
      case h_3 => exact (hcs _ _ rfl rfl).elim
      case h_4 => exact (hsc _ _ rfl rfl).elim
      case h_5 => exact (hbb _ _ rfl rfl).elim
      case h_6 => exact (hdd _ _ rfl rfl).elim
      case h_7 => exact (htt _ _ rfl rfl).elim
      case h_8 => rfl

theorem order_op (op op' : BinOp) (l r : Value) :
    order op' l r = (order op l r).mapError fun _ => badOperands op' l r := by
  rw [order_swap op op' r l, order_swap op op l r]
  cases order op l r with
  | error e => rfl
  | ok o =>
    cases o with
    | none => rfl
    | some o => cases o <;> rfl

theorem order_error {op : BinOp} {l r : Value} {e : Fault} (h : order op l r = .error e) :
    e = badOperands op l r := by
  have h' := order_op op op l r
  rw [h] at h'
  exact Except.error.inj h'

theorem order_eq_iff_equals {op : BinOp} {l r : Value} {o : Ordering}
    (h : order op l r = .ok (some o)) : o = .eq ↔ equals l r = true := by
  cases hp : promote l r with
  | some p =>
    rw [order_of_promote hp] at h
    rw [equals_of_promote hp]
    exact Promoted.cmp_eq_iff (Except.ok.inj h)
  | none =>
    unfold order at h
    rw [hp] at h
    dsimp only at h
    -- the ordered pairs of kinds: `==` is the kind's own equality, which its order decides
    split at h
    case h_1 a b =>
      cases h
      rw [charsCompare_eq_iff, String.toList_inj]
      exact beq_iff_eq.symm
    case h_2 a b =>
      cases h
      rw [char_compare_eq_iff]
      exact beq_iff_eq.symm
    case h_3 a b =>
      cases h
      rw [charsCompare_eq_iff]
      exact beq_iff_eq.symm
    case h_4 a b =>
      cases h
      rw [charsCompare_eq_iff, eq_comm]
      exact beq_iff_eq.symm
    case h_5 a b =>
      cases h
      cases a <;> cases b <;> decide
    case h_6 a b =>
      cases h
      rw [Date.cmp_eq_iff]
      exact beq_iff_eq.symm
    case h_7 a b =>
      cases h
      rw [DateTime.cmp_eq_iff]
      exact beq_iff_eq.symm
    case h_8 => cases h

/-! ### The comparison operators -/

theorem compareWith_of_order_error {op : BinOp} {l r : Value} {e : Fault}
    (h : order op l r = .error e) :
    compareWith op l r = .error e := by
  unfold compareWith
  rw [h]
  rfl

section Comparison

variable {op : BinOp} (hop : op ∈ [BinOp.lt, .le, .gt, .ge])
include hop

theorem compareWith_of_order {l r : Value} {o : Option Ordering} (h : order op l r = .ok o) :
    compareWith op l r = .ok (.bool (o.elim false op.admits)) := by
  unfold compareWith
  rw [h]
  simp only [List.mem_cons, List.not_mem_nil, or_false] at hop
  cases o with
  | none => rfl
  | some o => rcases hop with rfl | rfl | rfl | rfl <;> rfl

theorem flip_mem : op.flip ∈ [BinOp.lt, .le, .gt, .ge] := by
  simp only [List.mem_cons, List.not_mem_nil, or_false] at hop ⊢
  rcases hop with rfl | rfl | rfl | rfl <;> simp [BinOp.flip]

theorem compareWith_flip (l r : Value) :
    (∃ x : Bool, compareWith op l r = .ok (.bool x) ∧
        compareWith op.flip r l = .ok (.bool x)) ∨
      (compareWith op l r = .error (badOperands op l r) ∧
        compareWith op.flip r l = .error (badOperands op.flip r l)) := by
  have hswap := order_swap op op.flip l r
  cases h : order op l r with
  | ok o =>
    rw [h] at hswap
    refine .inl ⟨o.elim false op.admits, compareWith_of_order hop h, ?_⟩
    rw [compareWith_of_order (flip_mem hop) hswap]
    cases o with
    | none => rfl
    | some o => exact congrArg (Except.ok ∘ Value.bool) (BinOp.admits_flip op o)
  | error e =>
    rw [h] at hswap
    rw [compareWith_of_order_error h, order_error h]
    exact .inr ⟨rfl, compareWith_of_order_error hswap⟩

end Comparison

theorem trichotomy {op : BinOp} {l r : Value} {o : Ordering} (h : order op l r = .ok (some o)) :
    binary .lt l r = .ok (.bool (o == .lt)) ∧ binary .eq l r = .ok (.bool (o == .eq)) ∧
      binary .gt l r = .ok (.bool (o == .gt)) := by
  have hlt : order .lt l r = .ok (some o) := by rw [order_op op, h]; rfl
  have hgt : order .gt l r = .ok (some o) := by rw [order_op op, h]; rfl
  have heq : equals l r = (o == .eq) := by
    rw [Bool.eq_iff_iff, beq_iff_eq]
    exact (order_eq_iff_equals h).symm
  refine ⟨compareWith_of_order (by simp) hlt, ?_, compareWith_of_order (by simp) hgt⟩
  exact congrArg (Except.ok ∘ Value.bool) heq

end Value

/-- The comparison operators with their sides exchanged and flipped agree: both give one boolean or
both fail with invalid operands. -/
theorem comparison_flip_trichotomy :
    (∀ op ∈ [BinOp.lt, .le, .gt, .ge], ∀ a b : Value,
      (∃ x : Bool, Value.compareWith op a b = .ok (.bool x) ∧
        Value.compareWith op.flip b a = .ok (.bool x)) ∨
      (Value.compareWith op a b = .error (.invalidOperands op.symbol a.typeName b.typeName) ∧
        Value.compareWith op.flip b a =
          .error (.invalidOperands op.flip.symbol b.typeName a.typeName))) ∧
    ∀ (op : BinOp) (a b : Value) (o : Ordering), Value.order op a b = .ok (some o) →
      (o = .eq ↔ Value.equals a b = true) ∧
      ∃ x y z : Bool, Value.binary .lt a b = .ok (.bool x) ∧
        Value.binary .eq a b = .ok (.bool y) ∧ Value.binary .gt a b = .ok (.bool z) ∧
        [x, y, z].count true = 1 := by
  refine ⟨fun op hop a b => Value.compareWith_flip hop a b, fun op a b o h => ?_⟩
  obtain ⟨hlt, heq, hgt⟩ := Value.trichotomy h
  refine ⟨Value.order_eq_iff_equals h, _, _, _, hlt, heq, hgt, ?_⟩
  cases o <;> rfl

theorem comparison_flip_trichotomy_text :
    (Value.compareWith .le (.str "ab") (.char 'b') = .ok (.bool true) ∧
      Value.compareWith .ge (.char 'b') (.str "ab") = .ok (.bool true)) ∧
    ∃ x y z : Bool, Value.binary .lt (.str "ab") (.char 'b') = .ok (.bool x) ∧
      Value.binary .eq (.str "ab") (.char 'b') = .ok (.bool y) ∧
      Value.binary .gt (.str "ab") (.char 'b') = .ok (.bool z) ∧ [x, y, z].count true = 1 := by
  have hle : Value.compareWith .le (.str "ab") (.char 'b') = .ok (.bool true) := rfl
  refine ⟨⟨hle, ?_⟩, (comparison_flip_trichotomy.2 .lt _ _ .lt rfl).2⟩
  rcases comparison_flip_trichotomy.1 .le (by simp) (.str "ab") (.char 'b') with
    ⟨x, h, hflip⟩ | ⟨h, -⟩
  · rw [hle] at h
    cases h
    exact hflip
  · rw [hle] at h
    cases h

end TypedExpr
