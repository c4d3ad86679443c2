import TelescopeLink.Binary64.Basic

/-!
# JSON

The values of JSON and the steps that every reader of it shares. A reader goes through its text once
from the left and hands on what it has not used, so where two things are wrong with a text the first
one is reported, and the kind of fault says how far the text can be trusted: it is no JSON
(`malformed`), it stopped too early (`truncated`), or it is JSON of another shape than was asked for
(`mismatched`).

Numbers without fraction and exponent stay whole as long as they fit 64 bits; all others are
binary64 numbers. The members of an object keep their order, and a name may occur twice.
-/

namespace TelescopeLink.Json

/-- Why a text could not be read. -/
inductive Fault
  /-- It is not JSON. -/
  | malformed
  /-- It ended before the value did. -/
  | truncated
  /-- The value is not of the shape that was asked for. -/
  | mismatched
deriving DecidableEq

/-- A JSON value. -/
inductive Value
  | null
  | flag (b : Bool)
  | whole (n : Int)
  | real (x : Binary64)
  | text (s : String)
  | array (items : List Value)
  | object (members : List (String × Value))

/-- What reading from a text gives: a value and the text behind it. -/
abbrev Read (α : Type) := Except Fault (α × List Char)

/-- How many containers may be open at once, the outermost included. -/
def depthLimit : Nat := 127

/-- White space between tokens. -/
def isSpace (c : Char) : Bool := c == ' ' || c == '\n' || c == '\t' || c == '\r'

/-- The text from its next token. -/
def skipSpaces (cs : List Char) : List Char := cs.dropWhile isSpace

/-- Nothing but white space is left. -/
def finish (cs : List Char) : Except Fault Unit :=
  if (skipSpaces cs).isEmpty then .ok () else .error .malformed

/-- The given characters, which must come next. -/
def readWord : List Char → List Char → Except Fault (List Char)
  | [], rest => .ok rest
  | _ :: _, [] => .error .truncated
  | w :: ws, c :: rest => if c = w then readWord ws rest else .error .malformed

/-- Moves to the next item of an array: true in front of an item, false in front of the bracket. -/
def nextItem (isFirst : Bool) (cs : List Char) : Read Bool :=
  match skipSpaces cs with
  | [] => .error .truncated
  | c :: rest =>
    if c = ']' then .ok (false, c :: rest)
    else if isFirst then .ok (true, c :: rest)
    else if c = ',' then
      match skipSpaces rest with
      | [] => .error .truncated
      | d :: rest => if d = ']' then .error .malformed else .ok (true, d :: rest)
    else .error .malformed

/-- The bracket that ends an array. -/
def closeArray (cs : List Char) : Except Fault (List Char) :=
  match skipSpaces cs with
  | [] => .error .truncated
  | c :: rest => if c = ']' then .ok rest else .error .malformed

/-- Moves to the next name in an object: true behind its opening quote, false in front of the
brace. -/
def nextName (isFirst : Bool) (cs : List Char) : Read Bool :=
  let name (cs : List Char) : Read Bool :=
    match cs with
    | [] => .error .truncated
    | c :: rest => if c = '"' then .ok (true, rest) else .error .malformed
  match skipSpaces cs with
  | [] => .error .truncated
  | c :: rest =>
    if c = '\x7d' then .ok (false, c :: rest)
    else if isFirst then name (c :: rest)
    else if c = ',' then name (skipSpaces rest)
    else .error .malformed

/-- The colon behind a name. -/
def readColon (cs : List Char) : Except Fault (List Char) :=
  match skipSpaces cs with
  | [] => .error .truncated
  | c :: rest => if c = ':' then .ok rest else .error .malformed

/-- The brace that ends an object. -/
def closeObject (cs : List Char) : Except Fault (List Char) :=
  match skipSpaces cs with
  | [] => .error .truncated
  | c :: rest => if c = '\x7d' then .ok rest else .error .malformed

end TelescopeLink.Json
