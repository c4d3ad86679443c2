/-!
# Binary floating point numbers of 64 bits

A number is its 64 bits: a sign, eleven bits of exponent, 52 of fraction. Everything that is
computed from one goes through exact integers: a finite number is `± numerator / denominator`, a
denominator being a power of two, and a positive ratio of integers becomes a number again by
`nearest`, the one rounding of this library, to the nearest number and to the even one of two
equally near.

Arithmetic is given for magnitudes only, since that is where the library needs it: reading numbers
(`mul`, `div`), scaling durations (`add`, `mul`) and reducing angles.
-/

namespace TelescopeLink

/-- A binary64 number, given by its bits. -/
structure Binary64 where
  bits : UInt64
deriving DecidableEq, Inhabited

namespace Binary64

/-- The number is written with a minus, be it zero or no number. -/
def isNegative (x : Binary64) : Bool := decide (1 <<< 63 ≤ x.bits.toNat)

/-- The bits without the sign. -/
def magnitude (x : Binary64) : Nat := x.bits.toNat % 1 <<< 63

/-- The bits of the exponent. -/
def exponentBits (x : Binary64) : Nat := x.magnitude >>> 52

/-- The bits of the fraction. -/
def fractionBits (x : Binary64) : Nat := x.magnitude % 1 <<< 52

/-- The magnitude bits of infinity. -/
def infinityBits : Nat := 2047 <<< 52

/-- Neither infinite nor a NaN. -/
def isFinite (x : Binary64) : Bool := decide (x.magnitude < infinityBits)

/-- Plus or minus infinity. -/
def isInfinite (x : Binary64) : Bool := x.magnitude == infinityBits

/-- Not a number. -/
def isNaN (x : Binary64) : Bool := decide (infinityBits < x.magnitude)

/-- Plus or minus zero. -/
def isZero (x : Binary64) : Bool := x.magnitude == 0

/-- The number with the given sign and magnitude bits. -/
def ofMagnitude (negative : Bool) (magnitude : Nat) : Binary64 :=
  ⟨UInt64.ofNat ((if negative then 1 <<< 63 else 0) + magnitude)⟩

/-- Plus zero. -/
def zero : Binary64 := ofMagnitude false 0

/-- Plus infinity. -/
def infinity : Binary64 := ofMagnitude false infinityBits

/-- The NaN that reading a text gives. -/
def nan : Binary64 := ofMagnitude false (infinityBits + 1 <<< 51)

/-- The number with the other sign. -/
def neg (x : Binary64) : Binary64 := ofMagnitude (!x.isNegative) x.magnitude

/-- The integer that a finite magnitude is a multiple of a power of two of. -/
def significand (x : Binary64) : Nat :=
  if x.exponentBits = 0 then x.fractionBits else 1 <<< 52 + x.fractionBits

/-- The exponent of that power of two. -/
def exponent (x : Binary64) : Int :=
  if x.exponentBits = 0 then -1074 else (x.exponentBits : Int) - 1075

/-- The magnitude of a finite number is `numerator / denominator`. -/
def numerator (x : Binary64) : Nat := x.significand <<< x.exponent.toNat

/-- The power of two under `numerator`. -/
def denominator (x : Binary64) : Nat := 1 <<< (-x.exponent).toNat

theorem denominator_pos (x : Binary64) : 0 < x.denominator := by
  rw [denominator, Nat.one_shiftLeft]
  exact Nat.two_pow_pos _

/-! ## Rounding -/

/-- The quotient rounded to the nearest integer, and to the even one from half way. -/
def divNearest (num den : Nat) : Nat :=
  let q := num / den
  let r := num % den
  if 2 * r < den then q
  else if 2 * r = den then (if q % 2 = 0 then q else q + 1)
  else q + 1

/-- `num / den / 2 ^ e` as a ratio of integers. -/
def scaled (num den : Nat) (e : Int) : Nat × Nat :=
  (num <<< (-e).toNat, den <<< e.toNat)

/-- The exponent of the last binary place that a number near `num / den` has: 53 places are kept,
and none below that of the smallest number. -/
def lastPlace (num den : Nat) : Int :=
  -- The logarithms put the quotient within a factor of two, so one more look decides.
  let e := (Nat.log2 num : Int) - (Nat.log2 den : Int) - 53
  let (n, d) := scaled num den e
  max (if d <<< 53 ≤ n then e + 1 else e) (-1074)

/-- The magnitude bits of the number nearest to `num / den`; infinity beyond the largest number. -/
def nearest (num den : Nat) : Nat :=
  if num = 0 then 0
  else
    let e := lastPlace num den
    let (n, d) := scaled num den e
    -- A significand rounded up to a power of two carries into the exponent by itself.
    min ((e + 1074).toNat <<< 52 + divNearest n d) infinityBits

/-- The nonnegative number nearest to a ratio. -/
def ofRatio (num den : Nat) : Binary64 := ofMagnitude false (nearest num den)

/-- The number nearest to an integer. -/
def ofNat (n : Nat) : Binary64 := ofRatio n 1

/-- The number nearest to an integer of either sign. -/
def ofInt (n : Int) : Binary64 := ofMagnitude (decide (n < 0)) (nearest n.natAbs 1)

/-! ## Arithmetic on finite nonnegative numbers -/

/-- The rounded sum. -/
def add (x y : Binary64) : Binary64 :=
  ofRatio (x.numerator * y.denominator + y.numerator * x.denominator)
    (x.denominator * y.denominator)

/-- The rounded product. -/
def mul (x y : Binary64) : Binary64 :=
  ofRatio (x.numerator * y.numerator) (x.denominator * y.denominator)

/-- The rounded quotient, for a divisor that is not zero. -/
def div (x y : Binary64) : Binary64 :=
  ofRatio (x.numerator * y.denominator) (x.denominator * y.numerator)

end Binary64

end TelescopeLink
