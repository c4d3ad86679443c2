import TelescopeLink.Binary64.Angle
import TelescopeLink.Binary64.Fixed
import TelescopeLink.Command
import TelescopeLink.Error
import TelescopeLink.Outcome

/-!
# Dialects

The two ways of saying commands on the wire and of hearing replies: that of the telescope control
system, with verbs in capitals and arguments in order, and that of its simulator, with verbs in
small letters and arguments by name. A dialect may refuse a command, and the simulator has no words
at all for the autoguider, which is no error.

A reply is a status word and what it says about: the values of a success, or the code and the words
of a failure. A reply without status word is a success with all its words, and one that begins with
the timeout marker is a failure in either dialect.
-/

namespace TelescopeLink

open Text

/-- A way to speak with the far end. -/
inductive Dialect
  | tcs
  | simulator
deriving DecidableEq

namespace Dialect

/-- The name of a dialect. -/
def name : Dialect → String
  | .tcs => "tcs"
  | .simulator => "simulator"

/-- The dialect of a name, in letters of either case. -/
def ofName? (name : String) : Option Dialect :=
  let letters := name.toList.map Char.toLower
  if letters = "tcs".toList then some .tcs
  else if letters = "simulator".toList ∨ letters = "sim".toList then some .simulator
  else none

/-! ## Commands -/

/-- A coordinate that the far end can take. -/
def finite (what : String) (value : Binary64) : Except Refusal Binary64 :=
  if value.isFinite then .ok value else .error (.notFinite what value)

/-- A name that is one word, without the blanks around it. -/
def oneWord (what value : String) : Except Refusal (List Char) :=
  let word := trim value.toList
  if word.isEmpty || word.any isBlank then .error (.notOneWord what word) else .ok word

/-- A text that has a word, as it stands. -/
def rawText (text : String) : Except Refusal (List Char) :=
  if (trim text.toList).isEmpty then .error .emptyText else .ok text.toList

/-- A declination between the poles. -/
def declination (value : Binary64) : Except Refusal Binary64 := do
  let value ← finite "dec" value
  if value.magnitudeAtMost 90 then return value else throw (.declinationOutOfRange value)

/-- The words of the control system for a command. -/
def tcsWords : Command → Except Refusal (List Char)
  | .slew ra dec => do
    let ra ← finite "ra" ra
    let dec ← declination dec
    return "SLEW ".toList ++ (ra.wrapAngle 360).fixed 6 ++ ' ' :: dec.fixed 6
  | .offset ra dec => do
    let ra ← finite "ra offset" ra
    let dec ← finite "dec offset" dec
    return "OFFSET ".toList ++ ra.fixed 3 ++ ' ' :: dec.fixed 3
  | .focus position => do
    let position ← finite "focus" position
    return "FOCUS ".toList ++ position.fixed 4
  | .autoguide enable =>
    return "AUTOGUIDE ".toList ++ (if enable then "ON".toList else "OFF".toList)
  | .rotator angle => do
    let angle ← finite "rotator angle" angle
    return "ROTATOR ".toList ++ angle.fixed 4
  | .instrument name => do
    let name ← oneWord "instrument" name
    return "INSTRUMENT ".toList ++ name
  | .query key => do
    let key ← oneWord "key" key
    return "SHOW ".toList ++ upper key
  | .stop => return "STOP".toList
  | .raw text => rawText text

/-- The words of the simulator for a command, if it has any. -/
def simulatorWords : Command → Except Refusal (Option (List Char))
  | .slew ra dec => do
    let ra ← finite "ra" ra
    let dec ← finite "dec" dec
    return some ("slew ra=".toList ++ ra.plain ++ " dec=".toList ++ dec.plain)
  | .offset ra dec => do
    let ra ← finite "ra offset" ra
    let dec ← finite "dec offset" dec
    return some ("offset dra=".toList ++ ra.plain ++ " ddec=".toList ++ dec.plain)
  | .focus position => do
    let position ← finite "focus" position
    return some ("focus pos=".toList ++ position.plain)
  | .autoguide _ => return none
  | .rotator angle => do
    let angle ← finite "rotator angle" angle
    return some ("rotator angle=".toList ++ angle.plain)
  | .instrument name => do
    let name ← oneWord "instrument" name
    return some ("instrument name=".toList ++ name)
  | .query key => do
    let key ← oneWord "key" key
    return some ("show key=".toList ++ lower key)
  | .stop => return some "stop".toList
  | .raw text => do
    let text ← rawText text
    return some text

/-- What goes on the wire for a command: a text, or nothing if the dialect has no words for it. -/
def render (dialect : Dialect) (command : Command) : Except Refusal (Option String) :=
  match dialect with
  | .tcs => (tcsWords command).map fun text => some (String.ofList text)
  | .simulator => (simulatorWords command).map fun text? => text?.map String.ofList

/-! ## Replies -/

/-- The status word of a success. -/
def okWord : Dialect → List Char
  | .tcs => "OK".toList
  | .simulator => "done".toList

/-- The status words of a failure. -/
def failWords : Dialect → List (List Char)
  | .tcs => ["ERR".toList, "ERROR".toList]
  | .simulator => ["fail".toList]

/-- A failure told by the words behind the status word. A first word that is the number of an error
is its code; zero is the number of none. -/
def failure (words : List (List Char)) : Outcome :=
  -- Without a code of its own, all the words are the message.
  let plain := Outcome.failed Outcome.farEndError (String.ofList (unwords words))
  match words with
  | [] => plain
  | first :: rest =>
    match int32? first with
    | some code =>
      if code = Outcome.okCode then plain
      else Outcome.failed code (String.ofList (unwords rest))
    | none => plain

/-- The outcome that the words of a reply tell. -/
def statusOutcome (dialect : Dialect) (words : List (List Char)) : Outcome :=
  match words with
  | [] => Outcome.ok []
  | first :: rest =>
    if equalIgnoringAsciiCase first dialect.okWord then Outcome.ok (rest.map String.ofList)
    else if dialect.failWords.any (equalIgnoringAsciiCase first) then failure rest
    else Outcome.ok (words.map String.ofList)

/-- The outcome that a reply tells. -/
def statusReply (dialect : Dialect) (text : String) : Outcome :=
  dialect.statusOutcome (words text.toList)

/-- What a reply begins with when the far end gave up. -/
def timeoutMarker : List Char := "<<090".toList

/-- A reply that begins with the timeout marker. -/
def isTimeoutReply (text : String) : Bool := timeoutMarker.isPrefixOf (trimStart text.toList)

/-- The outcome that a reply tells, the timeout marker looked for first. -/
def reply (dialect : Dialect) (text : String) : Outcome :=
  if isTimeoutReply text then
    Outcome.failed Outcome.farEndTimeout (String.ofList (trim text.toList))
  else dialect.statusReply text

/-- The outcome that an error message tells: never a success. -/
def errorReply (dialect : Dialect) (text : String) : Outcome :=
  let outcome := dialect.reply text
  if outcome.success then
    Outcome.failed Outcome.farEndError (String.ofList (trim text.toList))
  else outcome

end Dialect

end TelescopeLink
