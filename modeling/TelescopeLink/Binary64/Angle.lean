import TelescopeLink.Binary64.Basic

/-!
# Angles

Reduction of an angle to one turn. The remainder toward zero is exact and keeps the sign of the
angle; a negative one is then moved up by the turn, and only this sum is rounded, so that an angle
barely below zero may come out as a whole turn.
-/

namespace TelescopeLink.Binary64

/-- The remainder of a finite number by a whole number, with the sign of the number. -/
def remainder (x : Binary64) (turn : Nat) : Binary64 :=
  ofMagnitude x.isNegative (nearest (x.numerator % (turn * x.denominator)) x.denominator)

/-- The angle in one turn. -/
def wrapAngle (x : Binary64) (turn : Nat) : Binary64 :=
  let rest := x.numerator % (turn * x.denominator)
  if x.isNegative && rest != 0 then ofRatio (turn * x.denominator - rest) x.denominator
  else x.remainder turn

/-- The magnitude of a finite number is at most `n`. -/
def magnitudeAtMost (x : Binary64) (n : Nat) : Bool := decide (x.numerator ≤ n * x.denominator)

end TelescopeLink.Binary64
