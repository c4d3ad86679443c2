import TelescopeLink.Json.Number
import TelescopeLink.Json.Text

/-!
# Reading and writing values

`parse` reads a whole text as one value, `Value.compact` writes one without white space. Reading is
bounded in two ways: at most `depthLimit` containers may be open at once, a limit of the format, and
`fuel` counts down with every step into or along a container, a limit that a text never meets since
each step but the first uses a character.

`wrongShape` is the fault to report when the next value is not of the kind asked for: a scalar is
read to its end first, a container is not entered.
-/

namespace TelescopeLink.Json

mutual

/-- A value, with `room` for so many containers inside one another. -/
def readValue : (fuel room : Nat) → List Char → Except Fault (Value × List Char)
  | 0, _, _ => .error .malformed
  | fuel + 1, room, cs =>
    match skipSpaces cs with
    | [] => .error .truncated
    | c :: rest =>
      if c = 'n' then (readWord "ull".toList rest).map fun rest => (.null, rest)
      else if c = 't' then (readWord "rue".toList rest).map fun rest => (.flag true, rest)
      else if c = 'f' then (readWord "alse".toList rest).map fun rest => (.flag false, rest)
      else if c = '"' then
        (readTextBody rest).map fun (text, rest) => (.text (String.ofList text), rest)
      else if c = '[' then
        match room with
        | 0 => .error .malformed
        | room + 1 => do
          let (items, rest) ← readItems fuel room true rest
          let rest ← closeArray rest
          return (.array items, rest)
      else if c = '\x7b' then
        match room with
        | 0 => .error .malformed
        | room + 1 => do
          let (members, rest) ← readMembers fuel room true rest
          let rest ← closeObject rest
          return (.object members, rest)
      else if c = '-' || c.isDigit then
        (readNumber (c :: rest)).map fun (number, rest) => (number.toValue, rest)
      else .error .malformed

/-- The items of an array up to its bracket. -/
def readItems : (fuel room : Nat) → Bool → List Char →
    Except Fault (List Value × List Char)
  | 0, _, _, _ => .error .malformed
  | fuel + 1, room, isFirst, cs => do
    let (more, rest) ← nextItem isFirst cs
    if more then
      let (item, rest) ← readValue fuel room rest
      let (items, rest) ← readItems fuel room false rest
      return (item :: items, rest)
    else return ([], rest)

/-- The members of an object up to its brace. -/
def readMembers : (fuel room : Nat) → Bool → List Char →
    Except Fault (List (String × Value) × List Char)
  | 0, _, _, _ => .error .malformed
  | fuel + 1, room, isFirst, cs => do
    let (more, rest) ← nextName isFirst cs
    if more then
      let (name, rest) ← readTextBody rest
      let rest ← readColon rest
      let (value, rest) ← readValue fuel room rest
      let (members, rest) ← readMembers fuel room false rest
      return ((String.ofList name, value) :: members, rest)
    else return ([], rest)

end

/-- More steps than reading the text can take. -/
def stepsFor (cs : List Char) : Nat := 2 * cs.length + 2

/-- The text as one value. -/
def parse (cs : List Char) : Except Fault Value := do
  let (value, rest) ← readValue (stepsFor cs) depthLimit cs
  finish rest
  return value

/-- The fault to report in front of a value that is not of the kind asked for. -/
def wrongShape (cs : List Char) : Fault :=
  match cs with
  | [] => .truncated
  | c :: _ =>
    if c = '[' ∨ c = '\x7b' then .mismatched
    else
      match readValue (stepsFor cs) depthLimit cs with
      | .ok _ => .mismatched
      | .error fault => fault

/-! ## Writing -/

/-- Texts with a comma between neighbours. -/
def commas : List (List Char) → List Char
  | [] => []
  | [item] => item
  | item :: next :: more => item ++ ',' :: commas (next :: more)

/-- Texts of items in brackets. -/
def bracketed (items : List (List Char)) : List Char := '[' :: (commas items ++ [']'])

/-- A name and the text of its value. -/
def member (name : String) (value : List Char) : List Char := quote name.toList ++ ':' :: value

/-- Texts of members in braces. -/
def braced (members : List (List Char)) : List Char := '\x7b' :: (commas members ++ ['\x7d'])

/-- True or false. -/
def flagText (b : Bool) : List Char := if b then "true".toList else "false".toList

mutual

/-- The value without white space. -/
def Value.compact : Value → List Char
  | .null => "null".toList
  | .flag b => flagText b
  | .whole n => Text.intDigits n
  | .real x => realText x
  | .text s => quote s.toList
  | .array items => bracketed (compactItems items)
  | .object members => braced (compactMembers members)

/-- The texts of items. -/
def compactItems : List Value → List (List Char)
  | [] => []
  | item :: more => item.compact :: compactItems more

/-- The texts of members. -/
def compactMembers : List (String × Value) → List (List Char)
  | [] => []
  | (name, value) :: more => member name value.compact :: compactMembers more

end

end TelescopeLink.Json
