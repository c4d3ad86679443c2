import TelescopeLink.Json.Text

/-!
# Passing over a value

A member that nobody asked for is passed over rather than read. This is more lenient than reading:
any depth of nesting, any size of number and any escaped surrogate will do. The containers still
open are kept on a stack, and the text is passed over piece by piece: before each piece stands
either a value (`atValue`) or what may follow one (`afterValue`).
-/

namespace TelescopeLink.Json

open TelescopeLink.Text

/-- A container that has been entered. -/
inductive Container
  | array
  | object
deriving DecidableEq

/-- Passes over a text behind its opening quote. -/
def skipTextBody : List Char → Except Fault (List Char)
  | [] => .error .truncated
  | c :: rest =>
    if c = '"' then .ok rest
    else if c = '\\' then
      match rest with
      | [] => .error .truncated
      | e :: rest =>
        if e = 'u' then
          match rest with
          | h₁ :: h₂ :: h₃ :: h₄ :: rest =>
            if (hexDigitsValue? [h₁, h₂, h₃, h₄]).isSome then skipTextBody rest
            else .error .malformed
          | rest => .error (shortUnitFault rest)
        else if (shortEscape? e).isSome then skipTextBody rest
        else .error .malformed
    else if c.toNat < 0x20 then .error .malformed
    else skipTextBody rest

/-- Passes over an exponent behind its `e`. -/
def skipExponent (cs : List Char) : Except Fault (List Char) :=
  let cs := match cs with
    | '+' :: rest => rest
    | '-' :: rest => rest
    | cs => cs
  if (cs.takeWhile Char.isDigit).isEmpty then .error .malformed
  else .ok (cs.dropWhile Char.isDigit)

/-- Passes over an exponent, if one comes next. -/
def skipScale (cs : List Char) : Except Fault (List Char) :=
  match cs with
  | e :: rest => if e = 'e' ∨ e = 'E' then skipExponent rest else .ok cs
  | [] => .ok cs

/-- Passes over the fraction and exponent of a number, if it has them. -/
def skipFraction (cs : List Char) : Except Fault (List Char) :=
  match cs with
  | '.' :: rest =>
    if (rest.takeWhile Char.isDigit).isEmpty then .error .malformed
    else skipScale (rest.dropWhile Char.isDigit)
  | cs => skipScale cs

/-- Passes over a number behind its sign. -/
def skipUnsigned (cs : List Char) : Except Fault (List Char) :=
  match cs with
  | [] => .error .malformed
  | d :: rest =>
    if d = '0' then
      match rest with
      | e :: _ => if e.isDigit then .error .malformed else skipFraction rest
      | [] => skipFraction rest
    else if d.isDigit then skipFraction (rest.dropWhile Char.isDigit)
    else .error .malformed

/-- Passes over a name and its colon. -/
def skipName (cs : List Char) : Except Fault (List Char) :=
  match skipSpaces cs with
  | [] => .error .truncated
  | c :: rest =>
    if c = '"' then do
      let rest ← skipTextBody rest
      readColon rest
    else .error .malformed

/-- A scalar, or the container that is entered: what stands next, passed over. -/
def skipPiece (cs : List Char) : Read (Option Container) :=
  match skipSpaces cs with
  | [] => .error .truncated
  | c :: rest =>
    if c = 'n' then (readWord "ull".toList rest).map fun rest => (none, rest)
    else if c = 't' then (readWord "rue".toList rest).map fun rest => (none, rest)
    else if c = 'f' then (readWord "alse".toList rest).map fun rest => (none, rest)
    else if c = '"' then (skipTextBody rest).map fun rest => (none, rest)
    else if c = '-' then (skipUnsigned rest).map fun rest => (none, rest)
    else if c.isDigit then (skipUnsigned (c :: rest)).map fun rest => (none, rest)
    else if c = '[' then .ok (some .array, rest)
    else if c = '\x7b' then .ok (some .object, rest)
    else .error .malformed

mutual

/-- Passes over the value that comes next and what is still open around it. -/
def atValue : (fuel : Nat) → List Container → List Char → Except Fault (List Char)
  | 0, _, _ => .error .malformed
  | fuel + 1, stack, cs => do
    match ← skipPiece cs with
    | (none, rest) => afterValue fuel true stack rest
    | (some container, rest) => afterValue fuel false (container :: stack) rest

/-- Passes over what follows a value, or the bracket that opened a container when there is no value
yet. -/
def afterValue : (fuel : Nat) → Bool → List Container → List Char → Except Fault (List Char)
  | 0, _, _, _ => .error .malformed
  | _, _, [], rest => .ok rest
  | fuel + 1, hasValue, container :: stack, cs =>
    let enter (cs : List Char) : Except Fault (List Char) :=
      match container with
      | .array => atValue fuel (container :: stack) cs
      | .object => do
        let rest ← skipName cs
        atValue fuel (container :: stack) rest
    match skipSpaces cs with
    | [] => .error .truncated
    | c :: rest =>
      -- A comma may be followed by anything but a bracket: `enter` asks for a value.
      if c = ',' ∧ hasValue then enter rest
      else if c = (match container with | .array => ']' | .object => '\x7d') then
        afterValue fuel true stack rest
      else if hasValue then .error .malformed
      else enter (c :: rest)

end

/-- Passes over one value. -/
def skipValue (cs : List Char) : Except Fault (List Char) := atValue (2 * cs.length + 2) [] cs

end TelescopeLink.Json
