import TelescopeLink.Binary64.Basic

/-!
# Commands

What a caller may ask of the telescope, independent of how either far end spells it.
-/

namespace TelescopeLink

/-- A request of a caller. -/
inductive Command
  /-- Point to equatorial coordinates, in degrees. -/
  | slew (rightAscension declination : Binary64)
  /-- Move a little from the current position, in seconds of arc. -/
  | offset (rightAscension declination : Binary64)
  /-- Move the focus, in millimetres. -/
  | focus (position : Binary64)
  /-- Switch the autoguider on or off. -/
  | autoguide (enable : Bool)
  /-- Turn the rotator to a sky position angle, in degrees. -/
  | rotator (angle : Binary64)
  /-- Select the instrument in the focal plane. -/
  | instrument (name : String)
  /-- Ask for a status value. -/
  | query (key : String)
  /-- Stop all axes. -/
  | stop
  /-- Send a text as it stands. -/
  | raw (text : String)
deriving DecidableEq

/-- The name by which handling times are configured and callers are told what was answered. -/
def Command.typeName : Command → String
  | .slew _ _ => "SLEW"
  | .offset _ _ => "OFFSET"
  | .focus _ => "FOCUS"
  | .autoguide _ => "AUTOGUIDE"
  | .rotator _ => "ROTATOR"
  | .instrument _ => "INSTRUMENT"
  | .query _ => "SHOW"
  | .stop => "STOP"
  | .raw _ => "RAW"

/-- The numbers of a command, in order. -/
def Command.numbers : Command → List Binary64
  | .slew ra dec => [ra, dec]
  | .offset ra dec => [ra, dec]
  | .focus position => [position]
  | .rotator angle => [angle]
  | _ => []

end TelescopeLink
