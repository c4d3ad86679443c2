import TelescopeLink.Binary64.Basic
import TelescopeLink.Text.Decimal

/-!
# Reading numerals

A numeral is an optional sign before `inf`, `infinity` or `nan` in letters of any case, or before
digits with at most one point among or around them and an optional exponent `e` with a sign of its
own. Its value is rounded once, from the exact decimal; beyond the largest number it is infinite.

An exponent far outside the range of the numbers decides the value by itself, so no power of ten is
formed for it.
-/

namespace TelescopeLink.Binary64

open TelescopeLink.Text

/-- The number nearest to `digits * 10 ^ exponent`. -/
def ofDecimal (digits : Nat) (exponent : Int) : Binary64 :=
  if digits = 0 then zero
  else
    -- The value lies below `10 ^ place` and not below a tenth of it.
    let place := (Nat.toDigits 10 digits).length + exponent
    if 400 < place then infinity
    else if place < -400 then zero
    else ofRatio (digits * Nat.pow 10 exponent.toNat) (Nat.pow 10 (-exponent).toNat)

/-- The exponent that follows the digits of a numeral: nothing, or `e` and a whole number. -/
def exponent? (cs : List Char) : Option Int :=
  match cs with
  | [] => some 0
  | e :: rest =>
    if e = 'e' ∨ e = 'E' then
      match rest with
      | '-' :: digits => (natural? digits).map fun n => -(n : Int)
      | '+' :: digits => (natural? digits).map fun n => (n : Int)
      | digits => (natural? digits).map fun n => (n : Int)
    else none

/-- A numeral without sign. -/
def unsignedNumeral? (cs : List Char) : Option Binary64 :=
  let word := cs.map Char.toLower
  if word = "inf".toList ∨ word = "infinity".toList then some infinity
  else if word = "nan".toList then some nan
  else
    let whole := cs.takeWhile Char.isDigit
    let rest := cs.dropWhile Char.isDigit
    let part := match rest with
      | '.' :: rest => rest.takeWhile Char.isDigit
      | _ => []
    let rest := match rest with
      | '.' :: rest => rest.dropWhile Char.isDigit
      | rest => rest
    if whole.isEmpty && part.isEmpty then none
    else
      (exponent? rest).map fun e => ofDecimal (digitsValue (whole ++ part)) (e - part.length)

/-- A numeral. -/
def numeral? (cs : List Char) : Option Binary64 :=
  match cs with
  | '-' :: rest => (unsignedNumeral? rest).map neg
  | '+' :: rest => unsignedNumeral? rest
  | rest => unsignedNumeral? rest

end TelescopeLink.Binary64
