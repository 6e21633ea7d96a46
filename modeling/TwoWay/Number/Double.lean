/-!
# Double-precision numbers in decimal

A decimal is read as a double by scaling its digits with powers of ten, and a double is written with
the fewest digits that name it: those of a decimal that lies between the points halfway to its
neighbours, ends included when its significand is even. Of two decimals with as few digits the
nearer one is taken.

* `Double.ofDecimal?`: the double of a decimal, unless it is too large.
* `Double.shortest`: the digits of a positive double and the power of ten they are scaled by.
-/

namespace TwoWay.Double

/-! ## Reading -/

/-- The greatest power of ten that is a finite double. -/
def greatestPower : Nat := 308

/-- A power of ten as a double. -/
def powerOfTen (exponent : Nat) : Float := Float.ofScientific 1 false exponent

/-- Scales a double by a power of ten, in as many rounds as it takes to use up a negative exponent.
A result that is not finite is refused. -/
def scale? : (rounds : Nat) → Float → Int → Option Float
  | 0, x, _ => some x
  | rounds + 1, x, exponent =>
    if exponent.natAbs ≤ greatestPower then
      if 0 ≤ exponent then
        let scaled := x * powerOfTen exponent.natAbs
        if scaled.isInf then none else some scaled
      else some (x / powerOfTen exponent.natAbs)
    else if x == 0 then some x
    else if 0 ≤ exponent then none
    else scale? rounds (x / powerOfTen greatestPower) (exponent + greatestPower)

/-- The double of a significand below 2^64 and a power of ten. After four rounds down nothing is
left of the significand. -/
def ofDecimal? (significand : Nat) (exponent : Int) : Option Float :=
  scale? 4 (Float.ofNat significand) exponent

/-! ## Writing -/

/-- The significand of a double, without its first bit, is below this number. -/
def leadingBit : Nat := 4503599627370496

/-- The exponents of doubles, offset so that the least one is zero, are below this number. -/
def exponentCount : Nat := 2048

/-- The significand and the power of two of a positive double. -/
def decode (x : Float) : Nat × Int :=
  let bits : Nat := x.toBits.toNat
  let fraction : Nat := bits % leadingBit
  let exponent : Nat := bits / leadingBit % exponentCount
  if exponent = 0 then (fraction, -1074) else (leadingBit + fraction, (exponent : Int) - 1075)

/-- A quotient of natural numbers. -/
structure Ratio where
  num : Nat
  den : Nat

/-- A natural number scaled by a power of two and a power of ten. -/
def Ratio.scaled (n : Nat) (two ten : Int) : Ratio :=
  ⟨n * Nat.pow 2 two.toNat * Nat.pow 10 ten.toNat,
    Nat.pow 2 (-two).toNat * Nat.pow 10 (-ten).toNat⟩

/-- The least number of places, from a given one on, that the point of a quotient has to move right
to leave a digit before it. -/
def leadingPlaces (ratio : Ratio) : (fuel : Nat) → (places : Nat) → Nat
  | 0, places => places
  | fuel + 1, places =>
    if ratio.den ≤ ratio.num * Nat.pow 10 places then places
    else leadingPlaces ratio fuel (places + 1)

/-- The number of digits before the point; below one, minus the number of zeros after it. -/
def magnitude (ratio : Ratio) : Int :=
  if ratio.den ≤ ratio.num then ((Nat.toDigits 10 (ratio.num / ratio.den)).length : Int)
  else 1 - (leadingPlaces ratio 400 1 : Int)

/-- The decimal of a number of digits that names a double, if there is one: the nearer of the two
around it if both do, and of two equally near ones the even one. -/
def named? (significand : Nat) (two : Int) (magnitude : Int) (digits : Nat) : Option (Nat × Int) :=
  let power := magnitude - digits
  -- the double and the ends of its interval, in quarters of a unit of the last digit
  let value := Ratio.scaled (4 * significand) (two - 2) (-power)
  let atBoundary := significand = leadingBit && -1074 < two
  let below := Ratio.scaled (4 * significand - if atBoundary then 1 else 2) (two - 2) (-power)
  let above := Ratio.scaled (4 * significand + 2) (two - 2) (-power)
  let lower := value.num / value.den
  let isInside (n : Nat) : Bool :=
    if significand % 2 = 0 then below.num ≤ n * value.den && n * value.den ≤ above.num
    else below.num < n * value.den && n * value.den < above.num
  let twice := 2 * value.num
  let middle := (2 * lower + 1) * value.den
  let lowerFirst := twice < middle || (twice = middle && lower % 2 = 0)
  let candidates := if lowerFirst then [lower, lower + 1] else [lower + 1, lower]
  (candidates.find? isInside).map fun n => (n, power)

/-- Drops zeros at the end of a positive number into the power of ten. -/
def trimZeros : (fuel : Nat) → Nat × Int → Nat × Int
  | 0, found => found
  | fuel + 1, (n, power) =>
    if n % 10 = 0 then trimZeros fuel (n / 10, power + 1) else (n, power)

/-- The fewest digits that name a positive double, and the power of ten they are scaled by. -/
def shortest (x : Float) : Nat × Int :=
  let (significand, two) := decode x
  let places := magnitude (Ratio.scaled significand two 0)
  match (List.range 17).findSome? fun n => named? significand two places (n + 1) with
  | some found => trimZeros 20 found
  | none => (0, 0)

end TwoWay.Double
