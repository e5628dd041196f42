/-! Character classes given as sorted, disjoint ranges of code points, looked up by bisection. -/

namespace TypedExpr.Text

def inRangesFrom (rs : Array (Nat × Nat)) (n : Nat) (lo hi : Nat) : Bool :=
  if lo < hi then
    let mid := (lo + hi) / 2
    match rs[mid]? with
    | none => false
    | some (a, b) =>
      if n < a then inRangesFrom rs n lo mid
      else if n > b then inRangesFrom rs n (mid + 1) hi
      else true
  else false
termination_by hi - lo

def inRanges (rs : Array (Nat × Nat)) (n : Nat) : Bool := inRangesFrom rs n 0 rs.size

end TypedExpr.Text
