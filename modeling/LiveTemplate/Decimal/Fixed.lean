import LiveTemplate.Decimal.Binary64

namespace LiveTemplate.Binary64

/-- A number with `places` decimal places; a tie goes to the even neighbour, and the sign is kept
also where only zeros are left. -/
def fixed (x : Binary64) (places : Nat) : List Char :=
  let digits := Nat.toDigits 10 (roundDiv (x.units * Nat.pow 10 places) unitsOfOne)
  let padded := List.replicate (places + 1 - digits.length) '0' ++ digits
  let whole := padded.length - places
  (if x.isNegative then ['-'] else []) ++ padded.take whole ++
    (if places = 0 then [] else '.' :: padded.drop whole)

end LiveTemplate.Binary64
