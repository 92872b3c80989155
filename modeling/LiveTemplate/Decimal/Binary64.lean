namespace LiveTemplate

/-- A quotient rounded to the nearest integer, a tie to the even one. -/
def roundDiv (num den : Nat) : Nat :=
  let q := num / den
  let r := num % den
  if 2 * r < den then q else if den < 2 * r then q + 1 else q + q % 2

structure Binary64 where
  bits : UInt64
  deriving DecidableEq, Repr

namespace Binary64

def signBit : Nat := 0x8000000000000000

/-- The bits of infinity, which is above every finite magnitude. -/
def infinityBits : Nat := 0x7ff0000000000000

/-- The number of fractions that a significand can have. -/
def fractions : Nat := 0x10000000000000

def zero : Binary64 := ⟨0⟩

instance : Inhabited Binary64 := ⟨zero⟩

def isNegative (x : Binary64) : Bool := signBit ≤ x.bits.toNat

/-- The bits without the sign. -/
def magnitude (x : Binary64) : Nat := x.bits.toNat % signBit

def ofMagnitude (negative : Bool) (m : Nat) : Binary64 :=
  ⟨UInt64.ofNat (if negative then signBit + m else m)⟩

/-- The binary places by which the significand stands above the units. -/
def scale (x : Binary64) : Nat := x.magnitude / fractions - 1

def significand (x : Binary64) : Nat :=
  if x.magnitude / fractions = 0 then x.magnitude else fractions + x.magnitude % fractions

/-- The number of units in one. -/
def unitsOfOne : Nat := 1 <<< 1074

/-- The magnitude as a multiple of the smallest positive number. -/
def units (x : Binary64) : Nat := x.significand <<< x.scale

/-- The number nearest to a quotient of natural numbers, unless that is infinite. -/
def ofRatio? (negative : Bool) (num den : Nat) : Option Binary64 :=
  let scaled := num * unitsOfOne
  let scale := (scaled / den).log2 - 52
  let m := scale * fractions + roundDiv scaled (den <<< scale)
  if m < infinityBits then some (ofMagnitude negative m) else none

/-- How many decimal digits a number takes. -/
def digitCount (n : Nat) : Nat := (Nat.toDigits 10 n).length

/-- The number nearest to `digits · 10 ^ exponent`, unless that is infinite. -/
def ofDecimal? (negative : Bool) (digits : Nat) (exponent : Int) : Option Binary64 :=
  let leading := exponent + digitCount digits
  if digits = 0 ∨ leading < -400 then some (ofMagnitude negative 0)
  else if 400 < leading then none
  else if 0 ≤ exponent then ofRatio? negative (digits * Nat.pow 10 exponent.toNat) 1
  else ofRatio? negative digits (Nat.pow 10 (-exponent).toNat)

/-- The number as sixteen hexadecimal digits. -/
def hex (x : Binary64) : String :=
  let digits := Nat.toDigits 16 x.bits.toNat
  String.ofList (List.replicate (16 - digits.length) '0' ++ digits)

end Binary64
end LiveTemplate
