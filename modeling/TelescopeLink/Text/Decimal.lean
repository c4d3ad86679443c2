/-!
# Whole numbers in decimal

Digits are the ten of ASCII. A number of 32 bits may carry either sign, one of 64 bits only a plus;
in both a value out of range is no number at all, while leading zeros are allowed.
-/

namespace TelescopeLink.Text

/-- The value of a digit. -/
def digitValue (c : Char) : Nat := c.toNat - '0'.toNat

/-- The number that a row of digits spells, continuing from `value`. -/
def digitsValueFrom (value : Nat) (cs : List Char) : Nat :=
  cs.foldl (fun n c => 10 * n + digitValue c) value

/-- The number that a row of digits spells. -/
def digitsValue (cs : List Char) : Nat := digitsValueFrom 0 cs

/-- A text of digits and nothing else, at least one of them, as a number. -/
def natural? (cs : List Char) : Option Nat :=
  if !cs.isEmpty && cs.all Char.isDigit then some (digitsValue cs) else none

/-- A signed number of 32 bits. -/
def int32? (cs : List Char) : Option Int32 :=
  match cs with
  | '-' :: digits => (natural? digits).bind fun n =>
    if n ≤ 1 <<< 31 then some (Int32.ofInt (-n)) else none
  | '+' :: digits => (natural? digits).bind fun n =>
    if n < 1 <<< 31 then some (Int32.ofInt n) else none
  | digits => (natural? digits).bind fun n =>
    if n < 1 <<< 31 then some (Int32.ofInt n) else none

/-- An unsigned number of 64 bits. -/
def uint64? (cs : List Char) : Option UInt64 :=
  let digits := match cs with
    | '+' :: digits => digits
    | digits => digits
  (natural? digits).bind fun n => if n < 1 <<< 64 then some (UInt64.ofNat n) else none

/-- A natural number in digits. -/
def natDigits (n : Nat) : List Char := Nat.toDigits 10 n

/-- A whole number in digits, with a minus where it is negative. -/
def intDigits (n : Int) : List Char :=
  if n < 0 then '-' :: natDigits n.natAbs else natDigits n.natAbs

/-- The value of a hexadecimal digit of either case. -/
def hexValue? (c : Char) : Option Nat :=
  if c.isDigit then some (digitValue c)
  else if 'a' ≤ c ∧ c ≤ 'f' then some (c.toNat - 'a'.toNat + 10)
  else if 'A' ≤ c ∧ c ≤ 'F' then some (c.toNat - 'A'.toNat + 10)
  else none

/-- The number that a row of hexadecimal digits spells; none if another character is among them. -/
def hexDigitsValue? (cs : List Char) : Option Nat :=
  cs.foldl (fun n? c => n?.bind fun n => (hexValue? c).map (16 * n + ·)) (some 0)

end TelescopeLink.Text
