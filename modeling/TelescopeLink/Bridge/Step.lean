import TelescopeLink.Bridge

/-!
# Steps of a bridge

Everything that can be done to a bridge from outside, as data, so that a history is a list of steps.
-/

namespace TelescopeLink

namespace Bridge

/-- One thing done to a bridge. -/
inductive Step
  | create (command : Command) (session : Session)
  /-- Creates a request and sends it. -/
  | submit (command : Command) (session : Session)
  | send (place : Nat)
  | complete (place : Nat) (event : Event)
  | dispatch (message : Message)
  /-- From now on sending fails, or no longer. -/
  | refuse (on : Bool)
  /-- Closes the link. -/
  | close
  /-- Sets whether the link is open, and what it refuses every datagram with from now on. -/
  | setLink (bound : Bool) (refusal : Option IoFault)

/-- What a step gives to the one who took it. -/
inductive Report
  /-- The number of a new request. -/
  | created (sequence : Int32)
  /-- No number was free. -/
  | exhausted
  /-- A callback failed, or none did. -/
  | finished (failed : Bool)
  | dispatched (result : Dispatched)
  | none
deriving DecidableEq

/-- The number of the request at a place. -/
def sequenceAt (bridge : Bridge) (place : Nat) : Int32 :=
  match bridge.requests[place]? with
  | some request => request.sequence
  | none => 0

/-- Takes one step. -/
def step (bridge : Bridge) : Step → Bridge × Report
  | .create command session =>
    match bridge.create command session with
    | some (place, bridge) => (bridge, .created (bridge.sequenceAt place))
    | none => (bridge, .exhausted)
  | .submit command session =>
    match bridge.submit command session with
    | some (_, bridge, failed) => (bridge, .finished failed)
    | none => (bridge, .exhausted)
  | .send place =>
    let (bridge, failed) := bridge.send place
    (bridge, .finished failed)
  | .complete place event =>
    let (bridge, failed) := bridge.complete place event
    (bridge, .finished failed)
  | .dispatch message =>
    let (bridge, result) := bridge.dispatch message
    (bridge, .dispatched result)
  | .refuse on => ({ bridge with link := bridge.link.refuse on }, .none)
  | .close => ({ bridge with link := bridge.link.close }, .none)
  | .setLink bound refusal => ({ bridge with link := { bridge.link with bound, refusal } }, .none)

/-- Takes steps one after another. -/
def run (bridge : Bridge) (steps : List Step) : Bridge :=
  steps.foldl (fun bridge step => (bridge.step step).1) bridge

@[simp] theorem run_nil (bridge : Bridge) : bridge.run [] = bridge := rfl

@[simp] theorem run_cons (bridge : Bridge) (step : Step) (steps : List Step) :
    bridge.run (step :: steps) = (bridge.step step).1.run steps := rfl

theorem run_append (bridge : Bridge) (steps later : List Step) :
    bridge.run (steps ++ later) = (bridge.run steps).run later :=
  List.foldl_append ..

end Bridge

end TelescopeLink
