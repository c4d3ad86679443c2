import TelescopeLink.Binary64.Numeral
import TelescopeLink.Text.Blank

/-!
# Outcomes

The final word on a command. A success carries the values of the reply and a failure a code and a
text instead; code 0 is kept for successes, and the codes from 700001 on for what went wrong on this
side or was not given a code by the far end.
-/

namespace TelescopeLink

/-- How a command ended. -/
structure Outcome where
  success : Bool
  /-- Zero for a success. -/
  code : Int32
  /-- What went wrong; empty for a success. -/
  message : String
  /-- The words of the reply behind its status word. -/
  values : List String
deriving DecidableEq

namespace Outcome

/-! ## Codes -/

/-- Nothing went wrong. -/
def okCode : Int32 := 0

/-- A command could not be put into words of the far end. -/
def translationFailed : Int32 := 700001

/-- A datagram could not be sent. -/
def transmitFailed : Int32 := 700002

/-- The far end refused a command and gave no code. -/
def farEndError : Int32 := 700003

/-- The caller waited in vain. -/
def localTimeout : Int32 := 700004

/-- The far end itself reported a timeout. -/
def farEndTimeout : Int32 := 700090

/-! ## Making and showing outcomes -/

/-- A success with the values of the reply. -/
def ok (values : List String) : Outcome := ⟨true, okCode, "", values⟩

/-- A failure. -/
def failed (code : Int32) (message : String) : Outcome := ⟨false, code, message, []⟩

/-- The values that are numerals. -/
def numbers (outcome : Outcome) : List Binary64 :=
  outcome.values.filterMap fun value => Binary64.numeral? value.toList

/-- One line for people. -/
def display (outcome : Outcome) : String :=
  if outcome.success then "OK" ++ String.join (outcome.values.map (" " ++ ·))
  else
    "FAILED [" ++ String.ofList (Text.intDigits outcome.code.toInt) ++ "] " ++ outcome.message

end Outcome

end TelescopeLink
