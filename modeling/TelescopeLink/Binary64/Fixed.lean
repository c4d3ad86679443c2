import TelescopeLink.Binary64.Basic

/-!
# A fixed number of places

A finite number with a given number of decimal places: its exact value rounded to a multiple of the
last place, half way to the even one. The sign is kept also where only zeros are left.
-/

namespace TelescopeLink.Binary64

/-- The magnitude in units of the last of `places` decimal places. -/
def inPlaces (places : Nat) (x : Binary64) : Nat :=
  divNearest (x.numerator * Nat.pow 10 places) x.denominator

/-- A number of units of the last place, with the point before the last `places` digits. -/
def placesText (places : Nat) (n : Nat) : List Char :=
  let whole := Nat.toDigits 10 (n / Nat.pow 10 places)
  let part := Nat.toDigits 10 (n % Nat.pow 10 places)
  if places = 0 then whole
  else whole ++ '.' :: List.replicate (places - part.length) '0' ++ part

/-- The number with `places` decimal places. -/
def fixed (places : Nat) (x : Binary64) : List Char :=
  (if x.isNegative then ['-'] else []) ++ placesText places (x.inPlaces places)

end TelescopeLink.Binary64
