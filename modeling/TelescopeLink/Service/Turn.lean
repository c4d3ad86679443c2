import TelescopeLink.Bridge.Step
import TelescopeLink.Service

/-!
# Turns of a service

The receiver, the dispatcher and the callers of a service take turns, in any order. Here a turn is
data, so that a schedule is a list of turns, and all that a schedule does to the bridge is a list of
steps (`run`). Which turn comes next is nobody's decision: what holds of every list of turns holds of
the parties at work beside each other.
-/

namespace TelescopeLink

/-- The message that a step dispatches. -/
def Bridge.Step.message? : Bridge.Step → Option Message
  | .dispatch message => some message
  | _ => none

namespace Service

/-- One turn of one of the parties. -/
inductive Turn
  /-- The receiver makes one call, which gives this. -/
  | receive (arrival : Arrival)
  /-- The dispatcher looks into the inbox, and leads the oldest message to its request. -/
  | dispatch
  /-- A caller submits a command. -/
  | submit (command : Command) (session : Session)

/-- The datagram that is received in a turn. -/
def Turn.datagram? : Turn → Option Datagram
  | .receive arrival => arrival.datagram?
  | _ => none

/-- It is the dispatcher's turn. -/
def Turn.isDispatch : Turn → Bool
  | .dispatch => true
  | _ => false

/-- Takes one turn, and gives what was done to the bridge in it, if anything was. -/
def turn (service : Service) : Turn → Service × Option Bridge.Step
  | .receive arrival => (service.receive arrival, none)
  | .dispatch =>
    let (after, message?) := service.dispatchOnce
    (after, message?.map .dispatch)
  | .submit command session =>
    let after :=
      match service.submit command session with
      | some (_, after) => after
      | none => service
    (after, some (.submit command session))

/-- Takes turns one after another, and gives all that was done to the bridge. -/
def run (service : Service) : List Turn → Service × List Bridge.Step
  | [] => (service, [])
  | turn :: turns =>
    let (next, step?) := service.turn turn
    let (after, steps) := next.run turns
    (after, step?.toList ++ steps)

/-- The messages that wait to be dispatched, oldest first. -/
def waiting (service : Service) : List Message := service.reception.inbox.messages

@[simp] theorem run_nil (service : Service) : service.run [] = (service, []) := rfl

@[simp] theorem run_cons (service : Service) (turn : Turn) (turns : List Turn) :
    service.run (turn :: turns) =
      (((service.turn turn).1.run turns).1,
        (service.turn turn).2.toList ++ ((service.turn turn).1.run turns).2) := rfl

end Service

end TelescopeLink
