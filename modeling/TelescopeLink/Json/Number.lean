import TelescopeLink.Json.Basic
import TelescopeLink.Binary64.Shortest
import TelescopeLink.Text.Decimal

/-!
# Numbers in JSON

A number is read as a significand of at most 64 bits and a power of ten. Digits are taken into the
significand while they fit; behind the last that fits, the digits before the point only count as
powers of ten and those after it not at all. A number with neither point nor exponent whose digits
all fit is whole, minus zero excepted; any other becomes the significand times or divided by the
power of ten, each rounded, in steps of at most `10 ^ 308`. A number too large for binary64 is
malformed.

A binary64 number is written with the fewest digits that read back exactly rounded, in plain digits
with at least one behind the point from `1e-5` up to `1e16` and with an exponent otherwise.
-/

namespace TelescopeLink.Json

open TelescopeLink.Text

/-- A whole or a binary64 number. -/
inductive Number
  | whole (n : Int)
  | real (x : Binary64)

/-- The value of a number. -/
def Number.toValue : Number → Value
  | .whole n => .whole n
  | .real x => .real x

/-- Takes digits into a significand while 64 bits hold it; the digits left over. -/
def absorb (significand : Nat) : List Char → Nat × List Char
  | [] => (significand, [])
  | d :: digits =>
    let next := 10 * significand + digitValue d
    if next < 1 <<< 64 then absorb next digits else (significand, d :: digits)

/-- A power of ten as a binary64 number. -/
def powerOfTen (n : Nat) : Binary64 := Binary64.ofNat (Nat.pow 10 n)

/-- Divides by `10 ^ n` in steps of at most `10 ^ 308`. -/
def divideByPower (x : Binary64) (n : Nat) : Binary64 :=
  if n ≤ 308 then x.div (powerOfTen n)
  else if x.isZero then x
  else divideByPower (x.div (powerOfTen 308)) (n - 308)
termination_by n

/-- The significand scaled by a power of ten; none when that is infinite. -/
def scaleByPower? (significand : Nat) (exponent : Int) : Option Binary64 :=
  let x := Binary64.ofNat significand
  if 0 ≤ exponent then
    if exponent ≤ 308 then
      let y := x.mul (powerOfTen exponent.toNat)
      if y.isInfinite then none else some y
    else if x.isZero then some x
    else none
  else some (divideByPower x (-exponent).toNat)

/-- A scaled number with its sign. -/
def realNumber (negative : Bool) (significand : Nat) (exponent : Int) : Except Fault Number :=
  match scaleByPower? significand exponent with
  | some x => .ok (.real (if negative then x.neg else x))
  | none => .error .malformed

/-- The exponent behind `e` and the number it completes. Exponents that 32 bits do not hold stand
for zero or infinity. -/
def readExponent (negative : Bool) (significand : Nat) (exponent : Int) (cs : List Char) :
    Read Number :=
  let (down, cs) : Bool × List Char := match cs with
    | '-' :: rest => (true, rest)
    | '+' :: rest => (false, rest)
    | cs => (false, cs)
  match cs with
  | [] => .error .truncated
  | d :: _ =>
    if d.isDigit then
      let rest := cs.dropWhile Char.isDigit
      let power := digitsValue (cs.takeWhile Char.isDigit)
      if power < 1 <<< 31 then
        (realNumber negative significand (if down then exponent - power else exponent + power)).map
          fun number => (number, rest)
      -- With an exponent this far out only the two directions are left to tell apart.
      else if down || significand == 0 then
        .ok (.real (if negative then Binary64.zero.neg else Binary64.zero), rest)
      else .error .malformed
    else .error .malformed

/-- The part behind the digits before the point: fraction, exponent, or neither. -/
def readScale (negative : Bool) (significand : Nat) (surplus : Nat) (cs : List Char) :
    Read Number :=
  match cs with
  | '.' :: cs =>
    let digits := cs.takeWhile Char.isDigit
    let rest := cs.dropWhile Char.isDigit
    if digits.isEmpty then .error (if rest.isEmpty then .truncated else .malformed)
    else
      let (significand, ignored) := absorb significand digits
      -- Only the digits that the significand took have moved the point.
      let exponent : Int := surplus - (digits.length - ignored.length : Nat)
      match rest with
      | e :: more =>
        if e = 'e' ∨ e = 'E' then readExponent negative significand exponent more
        else (realNumber negative significand exponent).map fun number => (number, rest)
      | [] => (realNumber negative significand exponent).map fun number => (number, rest)
  | cs =>
    let plain : Read Number :=
      if surplus = 0 then
        if negative then
          -- Minus zero is no integer, and neither is what 64 bits with a sign do not hold.
          if significand = 0 ∨ 1 <<< 63 < significand then
            .ok (.real (Binary64.ofNat significand).neg, cs)
          else .ok (.whole (-(significand : Int)), cs)
        else .ok (.whole significand, cs)
      else (realNumber negative significand surplus).map fun number => (number, cs)
    match cs with
    | e :: more =>
      if e = 'e' ∨ e = 'E' then readExponent negative significand surplus more else plain
    | [] => plain

/-- A number behind its sign. -/
def readUnsigned (negative : Bool) (cs : List Char) : Read Number :=
  match cs with
  | [] => .error .truncated
  | d :: rest =>
    if d = '0' then
      match rest with
      | e :: _ => if e.isDigit then .error .malformed else readScale negative 0 0 rest
      | [] => readScale negative 0 0 rest
    else if d.isDigit then
      let (significand, surplus) := absorb 0 (cs.takeWhile Char.isDigit)
      readScale negative significand surplus.length (cs.dropWhile Char.isDigit)
    else .error .malformed

/-- A number. -/
def readNumber (cs : List Char) : Read Number :=
  match cs with
  | '-' :: rest => readUnsigned true rest
  | cs => readUnsigned false cs

/-! ## Writing -/

/-- The exponent of the leading digit, with its sign. -/
def exponentText (n : Int) : List Char :=
  'e' :: (if n < 0 then '-' else '+') :: natDigits n.natAbs

/-- A binary64 number; what is no number is `null`. -/
def realText (x : Binary64) : List Char :=
  if !x.isFinite then "null".toList
  else
    let sign := if x.isNegative then ['-'] else []
    if x.isZero then sign ++ "0.0".toList
    else
      let d := x.shortest .toEven
      if -5 < d.point ∧ d.point ≤ 16 then
        sign ++ d.positional ++ (if 0 ≤ d.exponent then ".0".toList else [])
      else
        match d.text with
        | [] => sign
        | [c] => sign ++ c :: exponentText (d.point - 1)
        | c :: more => sign ++ c :: '.' :: more ++ exponentText (d.point - 1)

end TelescopeLink.Json
