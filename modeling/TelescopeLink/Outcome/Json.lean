import TelescopeLink.Json.Skip
import TelescopeLink.Json.Value
import TelescopeLink.Outcome

/-!
# Outcomes in JSON

An outcome is written as an object on one line. It is read from an object, in which the values may
be missing and members of other names are passed over, or from an array of its fields in order. Each
field is read in its own form where it stands, so the first thing wrong is what gets reported.
-/

namespace TelescopeLink

open Json

namespace Outcome

/-- The outcome as a JSON text without white space. -/
def toJson (outcome : Outcome) : String :=
  String.ofList (braced
    [member "success" (flagText outcome.success),
     member "code" (Text.intDigits outcome.code.toInt),
     member "message" (quote outcome.message.toList),
     member "values" (bracketed (outcome.values.map fun value => quote value.toList))])

/-! ## Reading fields -/

/-- True or false, as the next value. -/
def readFlag (cs : List Char) : Except Fault (Bool × List Char) :=
  match skipSpaces cs with
  | 't' :: rest => (readWord "rue".toList rest).map fun rest => (true, rest)
  | 'f' :: rest => (readWord "alse".toList rest).map fun rest => (false, rest)
  | cs => throw (wrongShape cs)

/-- A whole number of 32 bits, as the next value. -/
def readCode (cs : List Char) : Except Fault (Int32 × List Char) :=
  match skipSpaces cs with
  | [] => throw .truncated
  | c :: rest =>
    if c = '-' || c.isDigit then
      match readNumber (c :: rest) with
      | .error fault => throw fault
      | .ok (.whole n, rest) =>
        if Int32.minValue.toInt ≤ n ∧ n ≤ Int32.maxValue.toInt then return (Int32.ofInt n, rest)
        else throw .mismatched
      | .ok (.real _, _) => throw .mismatched
    else throw (wrongShape (c :: rest))

/-- A text, as the next value. -/
def readText (cs : List Char) : Except Fault (String × List Char) :=
  match skipSpaces cs with
  | '"' :: rest => (readTextBody rest).map fun (text, rest) => (String.ofList text, rest)
  | cs => throw (wrongShape cs)

/-- The texts of an array up to its bracket. -/
def readTexts (fuel : Nat) (isFirst : Bool) (cs : List Char) :
    Except Fault (List String × List Char) :=
  match fuel with
  | 0 => throw .malformed
  | fuel + 1 => do
    let (more, rest) ← nextItem isFirst cs
    if more then
      let (text, rest) ← readText rest
      let (texts, rest) ← readTexts fuel false rest
      return (text :: texts, rest)
    else return ([], rest)

/-- An array of texts, as the next value. -/
def readValues (cs : List Char) : Except Fault (List String × List Char) :=
  match skipSpaces cs with
  | '[' :: rest => do
    let (values, rest) ← readTexts (stepsFor rest) true rest
    let rest ← closeArray rest
    return (values, rest)
  | cs => throw (wrongShape cs)

/-- The fields read so far. -/
structure Fields where
  success : Option Bool := none
  code : Option Int32 := none
  message : Option String := none
  values : Option (List String) := none

/-- The outcome of these fields; only the values may be missing. -/
def Fields.toOutcome? (fields : Fields) : Option Outcome := do
  return ⟨← fields.success, ← fields.code, ← fields.message, fields.values.getD []⟩

/-- The member with the given name, of which the colon comes next. -/
def readField (fields : Fields) (name : String) (cs : List Char) :
    Except Fault (Fields × List Char) := do
  if name = "success" then
    if fields.success.isSome then throw .mismatched
    let (b, rest) ← readFlag (← readColon cs)
    return ({ fields with success := some b }, rest)
  else if name = "code" then
    if fields.code.isSome then throw .mismatched
    let (n, rest) ← readCode (← readColon cs)
    return ({ fields with code := some n }, rest)
  else if name = "message" then
    if fields.message.isSome then throw .mismatched
    let (s, rest) ← readText (← readColon cs)
    return ({ fields with message := some s }, rest)
  else if name = "values" then
    if fields.values.isSome then throw .mismatched
    let (values, rest) ← readValues (← readColon cs)
    return ({ fields with values := some values }, rest)
  else
    let rest ← skipValue (← readColon cs)
    return (fields, rest)

/-- The members of an outcome up to the brace. -/
def readFields (fuel : Nat) (isFirst : Bool) (fields : Fields) (cs : List Char) :
    Except Fault (Fields × List Char) :=
  match fuel with
  | 0 => throw .malformed
  | fuel + 1 => do
    let (more, rest) ← nextName isFirst cs
    if more then
      let (name, rest) ← readTextBody rest
      let (fields, rest) ← readField fields (String.ofList name) rest
      readFields fuel false fields rest
    else return (fields, rest)

/-- The next item of an array, which must not end here. -/
def readItem {α : Type} (item : List Char → Except Fault (α × List Char)) (isFirst : Bool)
    (cs : List Char) : Except Fault (α × List Char) := do
  let (more, rest) ← nextItem isFirst cs
  if more then item rest else throw .mismatched

/-- An outcome as the next value. -/
def read (cs : List Char) : Except Fault (Outcome × List Char) :=
  match skipSpaces cs with
  | '[' :: rest => do
    let (success, rest) ← readItem readFlag true rest
    let (code, rest) ← readItem readCode false rest
    let (message, rest) ← readItem readText false rest
    let (more, rest) ← nextItem false rest
    let (values, rest) ← if more then readValues rest else pure ([], rest)
    let rest ← closeArray rest
    return (⟨success, code, message, values⟩, rest)
  | '\x7b' :: rest => do
    let (fields, rest) ← readFields (stepsFor rest) true {} rest
    match fields.toOutcome? with
    | none => throw .mismatched
    | some outcome =>
      let rest ← closeObject rest
      return (outcome, rest)
  | cs => throw (wrongShape cs)

/-- The outcome that a whole text is. -/
def ofJson (s : String) : Except Fault Outcome := do
  let (outcome, rest) ← read s.toList
  finish rest
  return outcome

end Outcome

end TelescopeLink
