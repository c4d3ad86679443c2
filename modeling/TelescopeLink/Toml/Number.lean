import TelescopeLink.Binary64.Numeral
import TelescopeLink.Toml.Text
import TelescopeLink.Toml.Value

/-!
# Numbers and moments in TOML

Digits may be grouped by single underscores between them. A whole number fits 64 bits with sign, has
no leading zeros in decimal, and may also be hexadecimal, octal or binary. A number with a point or
an exponent is a binary64 number; it must not round to plus infinity. A moment is a date, a time of
day, or a date and a time with or without the distance from universal time.
-/

namespace TelescopeLink.Toml

open TelescopeLink.Text

/-- Digits of one kind with underscores between them, as many as come next. -/
def readGroups (isDigit : Char → Bool) : List Char → Option (List Char × List Char)
  | [] => none
  | d :: rest =>
    if isDigit d then
      match rest with
      | '_' :: rest => prepend d (readGroups isDigit rest)
      | e :: rest =>
        if isDigit e then prepend d (readGroups isDigit (e :: rest)) else some ([d], e :: rest)
      | [] => some ([d], [])
    else none

/-- A sign, if one comes next: whether it is a minus. -/
def readSign : List Char → Option Bool × List Char
  | '-' :: rest => (some true, rest)
  | '+' :: rest => (some false, rest)
  | rest => (none, rest)

/-- The digits of a whole number in decimal. -/
def readDecimalDigits : List Char → Option (List Char × List Char)
  | '0' :: rest => some (['0'], rest)
  | cs => readGroups Char.isDigit cs

/-- A digit below eight. -/
def isOctalDigit (c : Char) : Bool := '0' ≤ c && c ≤ '7'

/-- A digit below two. -/
def isBinaryDigit (c : Char) : Bool := c == '0' || c == '1'

/-- The number that digits spell in a base. -/
def valueInBase (base : Nat) (digits : List Char) : Nat :=
  digits.foldl (fun n c => base * n + (hexValue? c).getD 0) 0

/-- A whole number that fits 64 bits with sign. -/
def fitting? (n : Int) : Option Value :=
  if Int64.minValue.toInt ≤ n ∧ n ≤ Int64.maxValue.toInt then some (.whole n) else none

/-- A whole number. -/
def readWhole (cs : List Char) : Option (Value × List Char) :=
  let inBase (base : Nat) (isDigit : Char → Bool) (cs : List Char) :
      Option (Value × List Char) := do
    let (digits, rest) ← readGroups isDigit cs
    let value ← fitting? (valueInBase base digits)
    return (value, rest)
  match cs with
  | '0' :: 'x' :: rest => inBase 16 (fun c => (hexValue? c).isSome) rest
  | '0' :: 'o' :: rest => inBase 8 isOctalDigit rest
  | '0' :: 'b' :: rest => inBase 2 isBinaryDigit rest
  | cs => do
    let (sign, rest) := readSign cs
    let (digits, rest) ← readDecimalDigits rest
    let n : Int := digitsValue digits
    let value ← fitting? (if sign = some true then -n else n)
    return (value, rest)

/-- An exponent with its `e`. -/
def readExponent : List Char → Option (List Char × List Char)
  | e :: rest =>
    if e = 'e' ∨ e = 'E' then do
      let (sign, rest) := readSign rest
      let (digits, rest) ← readGroups Char.isDigit rest
      let mark := match sign with
        | some true => ['e', '-']
        | _ => ['e']
      return (mark ++ digits, rest)
    else none
  | [] => none

/-- A number with a point or an exponent. -/
def readReal (cs : List Char) : Option (Value × List Char) := do
  let (sign, rest) := readSign cs
  let mark := if sign = some true then ['-'] else []
  match rest with
  | 'i' :: 'n' :: 'f' :: rest =>
    return (.real (if sign = some true then Binary64.infinity.neg else Binary64.infinity), rest)
  | 'n' :: 'a' :: 'n' :: rest => return (.real Binary64.nan, rest)
  | rest =>
    let (digits, rest) ← readDecimalDigits rest
    let (numeral, rest) ← match rest with
      | '.' :: rest => do
        let (part, rest) ← readGroups Char.isDigit rest
        let (exponent, rest) := (readExponent rest).getD ([], rest)
        some (digits ++ '.' :: part ++ exponent, rest)
      | rest => do
        let (exponent, rest) ← readExponent rest
        some (digits ++ exponent, rest)
    let x ← Binary64.numeral? (mark ++ numeral)
    if x = Binary64.infinity then none else some (.real x, rest)

/-! ## Moments -/

/-- A number of exactly so many digits in a range. -/
def readField (width low high : Nat) (cs : List Char) : Option (Nat × List Char) :=
  let digits := cs.take width
  if digits.length = width ∧ digits.all Char.isDigit then
    let n := digitsValue digits
    if low ≤ n ∧ n ≤ high then some (n, cs.drop width) else none
  else none

/-- A given character. -/
def readMark (mark : Char) : List Char → Option (List Char)
  | c :: rest => if c = mark then some rest else none
  | [] => none

/-- The year has a 29th of February. -/
def isLeapYear (year : Nat) : Bool := year % 4 == 0 && (year % 100 != 0 || year % 400 == 0)

/-- How many days a month has. -/
def daysIn (year month : Nat) : Nat :=
  if month = 2 then (if isLeapYear year then 29 else 28)
  else if month = 4 ∨ month = 6 ∨ month = 9 ∨ month = 11 then 30
  else 31

/-- The text behind a date. -/
def skipDate (cs : List Char) : Option (List Char) := do
  let (year, rest) ← readField 4 0 9999 cs
  let rest ← readMark '-' rest
  let (month, rest) ← readField 2 1 12 rest
  let rest ← readMark '-' rest
  let (_, rest) ← readField 2 1 (daysIn year month) rest
  return rest

/-- The text behind a fraction of a second, if one comes next. -/
def skipFraction (cs : List Char) : List Char :=
  match cs with
  | '.' :: d :: rest => if d.isDigit then rest.dropWhile Char.isDigit else cs
  | cs => cs

/-- The text behind a time of day. -/
def skipTime (cs : List Char) : Option (List Char) := do
  let (_, rest) ← readField 2 0 23 cs
  let rest ← readMark ':' rest
  let (_, rest) ← readField 2 0 59 rest
  let rest ← readMark ':' rest
  let (_, rest) ← readField 2 0 60 rest
  return skipFraction rest

/-- The text behind a distance from universal time. -/
def skipOffset (cs : List Char) : Option (List Char) :=
  match cs with
  | 'Z' :: rest => some rest
  | 'z' :: rest => some rest
  | cs => do
    let (sign, rest) := readSign cs
    if sign.isNone then none
    let (_, rest) ← readField 2 0 23 rest
    let rest ← readMark ':' rest
    let (_, rest) ← readField 2 0 59 rest
    return rest

/-- The text behind a moment. -/
def skipMoment (cs : List Char) : Option (List Char) :=
  match skipDate cs with
  | some rest =>
    match rest with
    | c :: more =>
      if c = 'T' ∨ c = 't' ∨ c = ' ' then
        match skipTime more with
        | some after => some ((skipOffset after).getD after)
        | none => some rest
      else some rest
    | [] => some rest
  | none => skipTime cs

/-- A moment. -/
def readMoment (cs : List Char) : Option (Value × List Char) :=
  (skipMoment cs).map fun rest =>
    (.moment (String.ofList (cs.take (cs.length - rest.length))), rest)

/-- A moment or a number. -/
def readNumber (cs : List Char) : Option (Value × List Char) :=
  (readMoment cs).or ((readReal cs).or (readWhole cs))

end TelescopeLink.Toml
