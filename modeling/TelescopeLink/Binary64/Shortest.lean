import TelescopeLink.Binary64.Basic

/-!
# The shortest decimal that reads back

A finite number that is not zero stands for every real nearer to it than to its neighbours, and for
the ends of that interval when its significand is even. Among the decimals in the interval those
with the fewest digits are taken, and of them the one nearest to the number; which of two equally
near ones it is, a format decides for itself.

For each count of digits only the two multiples of the last place around the number need be looked
at: if any multiple lies in the interval, so does one of these. Seventeen digits always suffice.
-/

namespace TelescopeLink.Binary64

/-- A positive decimal `digits * 10 ^ exponent`. -/
structure Decimal where
  digits : Nat
  exponent : Int
deriving DecidableEq

/-- Which of two decimals at the same distance is taken. -/
inductive Tie
  /-- The one farther from zero. -/
  | up
  /-- The one whose last digit is even. -/
  | toEven
deriving DecidableEq

/-- The reals that round to a number, as integers over one denominator. -/
structure Interval where
  low : Nat
  value : Nat
  high : Nat
  denominator : Nat
  /-- The two ends belong to it. -/
  closed : Bool

/-- The interval of a finite number. Below a power of two the spacing halves. -/
def interval (x : Binary64) : Interval :=
  let unit := 1 <<< x.exponent.toNat
  let narrow := x.fractionBits = 0 ∧ 1 < x.exponentBits
  let value := 4 * x.significand * unit
  { low := value - (if narrow then unit else 2 * unit)
    value := value
    high := value + 2 * unit
    denominator := 4 * x.denominator
    closed := x.significand % 2 == 0 }

/-- The real `n / d` lies in the interval. -/
def Interval.contains (range : Interval) (n d : Nat) : Bool :=
  let low := range.low * d
  let high := range.high * d
  let here := n * range.denominator
  if range.closed then decide (low ≤ here) && decide (here ≤ high)
  else decide (low < here) && decide (here < high)

/-- How many digits stand before the point of `num / den`, counted down below one: the least `k`
with `num / den < 10 ^ k`, for ratios above `10 ^ -400`. -/
def pointPlace (num den : Nat) : Int :=
  ((Nat.toDigits 10 (num * Nat.pow 10 400 / den)).length : Int) - 400

/-- The multiple of `10 ^ place` in the interval that is nearest to its value, in units of that
place, if there is one. -/
def nearestMultiple? (tie : Tie) (range : Interval) (place : Int) : Option Nat :=
  let scale := Nat.pow 10 place.toNat
  let shrink := Nat.pow 10 (-place).toNat
  let num := range.value * shrink
  let den := range.denominator * scale
  let below := num / den
  let above := below + 1
  -- No multiple of the place lies between these two.
  let belowFits := range.contains (below * scale) shrink
  let aboveFits := range.contains (above * scale) shrink
  let gap := 2 * (num % den)
  let preferAbove :=
    if gap = den then (match tie with | .up => true | .toEven => below % 2 == 1)
    else decide (den < gap)
  match belowFits, aboveFits with
  | true, true => some (if preferAbove then above else below)
  | true, false => some below
  | false, true => some above
  | false, false => none

/-- The decimal without zeros at its end. -/
def Decimal.normal : Nat → Decimal → Decimal
  | 0, d => d
  | fuel + 1, d =>
    if d.digits % 10 = 0 then Decimal.normal fuel ⟨d.digits / 10, d.exponent + 1⟩ else d

/-- The first count of digits from `18 - fuel` on whose decimals meet the interval. -/
def shortestFrom (tie : Tie) (range : Interval) (point : Int) : Nat → Decimal
  | 0 => ⟨range.value / range.denominator, 0⟩
  | fuel + 1 =>
    let place := point - (17 - fuel : Nat)
    match nearestMultiple? tie range place with
    | some digits => Decimal.normal 18 ⟨digits, place⟩
    | none => shortestFrom tie range point fuel

/-- The shortest decimal of the magnitude of a finite number that is not zero. -/
def shortest (tie : Tie) (x : Binary64) : Decimal :=
  shortestFrom tie x.interval (pointPlace x.numerator x.denominator) 17

/-! ## Writing -/

/-- The digits of a decimal. -/
def Decimal.text (d : Decimal) : List Char := Nat.toDigits 10 d.digits

/-- Where the point stands: behind that many of the digits. -/
def Decimal.point (d : Decimal) : Int := d.text.length + d.exponent

/-- The decimal without exponent, and without a point when it is whole. -/
def Decimal.positional (d : Decimal) : List Char :=
  let text := d.text
  if 0 ≤ d.exponent then text ++ List.replicate d.exponent.toNat '0'
  else if 0 < d.point then text.take d.point.toNat ++ '.' :: text.drop d.point.toNat
  else '0' :: '.' :: List.replicate (-d.point).toNat '0' ++ text

/-- The number in plain digits: `inf` and `NaN` apart, its shortest decimal without exponent. -/
def plain (x : Binary64) : List Char :=
  if x.isNaN then "NaN".toList
  else
    let sign := if x.isNegative then ['-'] else []
    if x.isInfinite then sign ++ "inf".toList
    else if x.isZero then sign ++ ['0']
    else sign ++ (x.shortest .up).positional

end TelescopeLink.Binary64
