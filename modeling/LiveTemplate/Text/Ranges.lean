namespace LiveTemplate

/-- A set of code points: the first and the last of each of its ranges, in ascending order. -/
structure Ranges where
  bounds : Array (Nat × Nat)

namespace Ranges

/-- Whether one of the ranges from position `low` to before `high` holds `n`, by halving. -/
def holdsBetween (t : Ranges) (n low high : Nat) : Bool :=
  if _h : low < high then
    let middle := (low + high) / 2
    match t.bounds[middle]? with
    | none => false
    | some (first, last) =>
      if n < first then t.holdsBetween n low middle
      else if last < n then t.holdsBetween n (middle + 1) high
      else true
  else false
termination_by high - low

def contains (t : Ranges) (c : Char) : Bool := t.holdsBetween c.toNat 0 t.bounds.size

end Ranges
end LiveTemplate
