import TelescopeLink.Command
import TelescopeLink.Json.Value

/-!
# Commands in JSON

A command is an object whose member `type` names its kind, wherever it stands among the others, or
an array of the kind and its fields in order. Fields of numbers take any number, members that no
field is named for are ignored, and no field may be missing or given twice.

The kind is checked where it stands in the text. The other members are read as values and looked at
when the whole object has been read, so a fault of syntax in one of them is reported before a field
of the wrong kind.
-/

namespace TelescopeLink

open Json

namespace Command

/-- The kinds of commands. -/
inductive Kind
  | slew | offset | focus | autoguide | rotator | instrument | query | stop | raw
deriving DecidableEq

/-- The kind that a name in JSON stands for. -/
def Kind.ofName? (name : String) : Option Kind :=
  if name = "Slew" then some .slew
  else if name = "Offset" then some .offset
  else if name = "Focus" then some .focus
  else if name = "Autoguide" then some .autoguide
  else if name = "Rotator" then some .rotator
  else if name = "Instrument" then some .instrument
  else if name = "Show" then some .query
  else if name = "Stop" then some .stop
  else if name = "Raw" then some .raw
  else none

/-- The names of the fields, in order. -/
def Kind.fields : Kind → List String
  | .slew => ["ra_deg", "dec_deg"]
  | .offset => ["ra_arcsec", "dec_arcsec"]
  | .focus => ["position_mm"]
  | .autoguide => ["enable"]
  | .rotator => ["angle_deg"]
  | .instrument => ["name"]
  | .query => ["key"]
  | .stop => []
  | .raw => ["text"]

/-- The number that a value is, if it is one. -/
def number? : Value → Option Binary64
  | .whole n => some (Binary64.ofInt n)
  | .real x => some x
  | _ => none

/-- The command of a kind with the given field values. -/
def ofFields? : Kind → List Value → Option Command
  | .slew, [ra, dec] => do return .slew (← number? ra) (← number? dec)
  | .offset, [ra, dec] => do return .offset (← number? ra) (← number? dec)
  | .focus, [position] => do return .focus (← number? position)
  | .autoguide, [.flag enable] => some (.autoguide enable)
  | .rotator, [angle] => do return .rotator (← number? angle)
  | .instrument, [.text name] => some (.instrument name)
  | .query, [.text key] => some (.query key)
  | .stop, [] => some .stop
  | .raw, [.text text] => some (.raw text)
  | _, _ => none

/-- The values of the named fields, each of which must be given exactly once. -/
def pick (fields : List String) (members : List (String × Value)) : Option (List Value) :=
  fields.mapM fun field =>
    match members.filter (·.1 = field) with
    | [(_, value)] => some value
    | _ => none

/-- The name of a kind, as the next value. -/
def readKind (cs : List Char) : Except Fault (Kind × List Char) :=
  match skipSpaces cs with
  | '"' :: rest => do
    let (name, rest) ← readTextBody rest
    match Kind.ofName? (String.ofList name) with
    | some kind => return (kind, rest)
    | none => throw .mismatched
  | cs => throw (wrongShape cs)

/-- The members of a command up to the brace: its kind, if it was given, and the others. -/
def readTagged (fuel room : Nat) (isFirst : Bool) (kind : Option Kind) (cs : List Char) :
    Except Fault ((Option Kind × List (String × Value)) × List Char) :=
  match fuel with
  | 0 => throw .malformed
  | fuel + 1 => do
    let (more, rest) ← nextName isFirst cs
    if more then
      let (name, rest) ← readTextBody rest
      if String.ofList name = "type" then
        -- A second kind is refused at its name, whatever stands behind it.
        if kind.isSome then throw .mismatched
        let rest ← readColon rest
        let (kind, rest) ← readKind rest
        readTagged fuel room false (some kind) rest
      else
        let rest ← readColon rest
        let (value, rest) ← readValue fuel room rest
        let ((kind, members), rest) ← readTagged fuel room false kind rest
        return ((kind, (String.ofList name, value) :: members), rest)
    else return ((kind, []), rest)

/-- A command as the next value. -/
def read (cs : List Char) : Except Fault (Command × List Char) :=
  let fuel := stepsFor cs
  match skipSpaces cs with
  | '[' :: rest => do
    let (more, rest) ← nextItem true rest
    if !more then throw .mismatched
    let (kind, rest) ← readKind rest
    let (items, rest) ← readItems fuel (depthLimit - 1) false rest
    let rest ← closeArray rest
    match ofFields? kind items with
    | some command => return (command, rest)
    | none => throw .mismatched
  | '\x7b' :: rest => do
    let ((kind, members), rest) ← readTagged fuel (depthLimit - 1) true none rest
    let rest ← closeObject rest
    match kind with
    | none => throw .mismatched
    | some kind =>
      -- The closing brace has been read, so nothing but the fields themselves can be wrong now.
      match (pick kind.fields members).bind (ofFields? kind) with
      | some command => return (command, rest)
      | none => throw .mismatched
  | cs => throw (wrongShape cs)

/-- The command that a whole text is. -/
def ofJson (s : String) : Except Fault Command := do
  let (command, rest) ← read s.toList
  finish rest
  return command

/-- The name of the kind in JSON. -/
def kindName : Command → String
  | .slew _ _ => "Slew"
  | .offset _ _ => "Offset"
  | .focus _ => "Focus"
  | .autoguide _ => "Autoguide"
  | .rotator _ => "Rotator"
  | .instrument _ => "Instrument"
  | .query _ => "Show"
  | .stop => "Stop"
  | .raw _ => "Raw"

/-- The fields as members of an object. -/
def fieldMembers : Command → List (String × Value)
  | .slew ra dec => [("ra_deg", .real ra), ("dec_deg", .real dec)]
  | .offset ra dec => [("ra_arcsec", .real ra), ("dec_arcsec", .real dec)]
  | .focus position => [("position_mm", .real position)]
  | .autoguide enable => [("enable", .flag enable)]
  | .rotator angle => [("angle_deg", .real angle)]
  | .instrument name => [("name", .text name)]
  | .query key => [("key", .text key)]
  | .stop => []
  | .raw text => [("text", .text text)]

/-- The command as a JSON text without white space. -/
def toJson (command : Command) : String :=
  String.ofList (Value.object (("type", .text command.kindName) :: command.fieldMembers)).compact

end Command

end TelescopeLink
