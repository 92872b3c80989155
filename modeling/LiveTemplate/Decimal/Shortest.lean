import LiveTemplate.Decimal.Binary64

namespace LiveTemplate.Binary64

/-- `digits · 10 ^ exponent`. -/
structure Decimal where
  digits : Nat
  exponent : Int
  deriving DecidableEq, Repr

/-- The decimal exponent of the leading digit of `units`, which is not zero. -/
def leadingExponent (units : Nat) : Int :=
  if unitsOfOne ≤ units then (digitCount (units / unitsOfOne) : Int) - 1
  else
    match (List.range 325).find? fun p => unitsOfOne ≤ units * Nat.pow 10 p with
    | some p => -(p : Int)
    | none => -324

/-- The decimal of `count` digits that reads back as `x`, if there is one: the nearer of the two
next to `x`, the even one of two equally near. -/
def decimalOf? (x : Binary64) (count : Nat) : Option Decimal :=
  let exponent := leadingExponent x.units - (count : Int) + 1
  -- everything below is counted in quarters of a unit and multiplied by `b`
  let a := Nat.pow 10 exponent.toNat * unitsOfOne * 4
  let b := Nat.pow 10 (-exponent).toNat
  let value := x.units * 4 * b
  let above := (2 <<< x.scale) * b
  let below := if x.significand = fractions ∧ 0 < x.scale then above / 2 else above
  let closed := x.significand % 2 = 0
  let low := value / a
  let high := low + 1
  let lowGap := value - low * a
  let highGap := high * a - value
  let lowFits := 0 < low ∧ (lowGap < below ∨ (closed ∧ lowGap = below))
  let highFits := highGap < above ∨ (closed ∧ highGap = above)
  if lowFits ∧ (¬ highFits ∨ lowGap < highGap ∨ (lowGap = highGap ∧ low % 2 = 0)) then
    some ⟨low, exponent⟩
  else if highFits then some ⟨high, exponent⟩
  else none

/-- The digits of a decimal without the zeros at their end, and the exponent of the first. -/
def Decimal.normal (d : Decimal) : List Char × Int :=
  let digits := Nat.toDigits 10 d.digits
  ((digits.reverse.dropWhile (· = '0')).reverse, d.exponent + digits.length - 1)

/-- The shortest digits of a number, and the exponent of the first of them. -/
def shortest (x : Binary64) : List Char × Int :=
  if x.units = 0 then (['0'], 0)
  else
    match ((List.range 17).map (· + 1)).findSome? x.decimalOf? with
    | some d => d.normal
    | none => (['0'], 0)

/-- Written without an exponent, with at least one digit on either side of the point. -/
def positional (digits : List Char) (leading : Int) : List Char :=
  if leading < 0 then
    ['0', '.'] ++ List.replicate (-leading - 1).toNat '0' ++ digits
  else
    let whole := leading.toNat + 1
    let fraction := digits.drop whole
    digits.take whole ++ List.replicate (whole - digits.length) '0' ++ ['.'] ++
      (if fraction.isEmpty then ['0'] else fraction)

/-- Written with one digit before the point and a signed exponent. -/
def scientific (digits : List Char) (leading : Int) : List Char :=
  digits.take 1 ++ (if digits.length ≤ 1 then [] else '.' :: digits.drop 1) ++
    ['e', if leading < 0 then '-' else '+'] ++ Nat.toDigits 10 leading.natAbs

/-- The shortest text that reads back as the number: positional where the leading exponent is from
-5 to 15, scientific otherwise. -/
def toText (x : Binary64) : List Char :=
  let sign := if x.isNegative then ['-'] else []
  let (digits, leading) := x.shortest
  sign ++ (if -5 ≤ leading ∧ leading ≤ 15 then positional digits leading
    else scientific digits leading)

end LiveTemplate.Binary64
