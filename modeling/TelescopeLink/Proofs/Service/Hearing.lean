import TelescopeLink.Proofs.Service.Conservation

/-!
# Datagrams heard one by one or all together

A service can receive all the datagrams there are and then dispatch what they said (`settle`), or
dispatch what each of them says before it takes the next (`hear`). It ends up the same
(`foldl_hear_dispatchAll`), also when it is stopped on the way and messages are left over.

The reason is that the receiver works at one end of the inbox and the dispatcher at the other. As
long as a message waits neither notices the other, so their turns commute (`dispatchOnce_receive`);
and once the dispatcher has nothing left to do, further turns of it do nothing
(`dispatchAll_dispatchTimes`).
-/

namespace TelescopeLink

namespace Reception

/-- The receiver with these messages in its inbox instead. -/
def holding (reception : Reception) (messages : List Message) : Reception :=
  { reception with inbox := { reception.inbox with messages } }

@[simp] theorem holding_self (reception : Reception) :
    reception.holding reception.inbox.messages = reception := rfl

/-- What a call puts behind the messages in the inbox does not depend on them. -/
theorem AtWork.step_holding {reception : Reception} (h : reception.AtWork) (arrival : Arrival) :
    ∃ heard, ∀ messages,
      (reception.holding messages).step { arrival } =
        (reception.step { arrival }).holding (messages ++ heard) := by
  have hstopped : ∀ messages, (reception.holding messages).hasStopped = false := by
    intro messages
    exact h.notStopped
  cases harrival : arrival.datagram? with
  | none =>
      refine ⟨[], ?_⟩
      intro messages
      rw [step_of_none (hstopped messages) harrival, step_of_none h.notStopped harrival,
        List.append_nil]
      rfl
  | some bytes =>
      cases hmessage : Datagram.message (bytes.take reception.capacity) with
      | error error =>
          refine ⟨[], ?_⟩
          intro messages
          have hother : Datagram.message (bytes.take (reception.holding messages).capacity) =
              .error error := hmessage
          rw [step_of_datagram (hstopped messages) harrival, hother,
            step_of_datagram h.notStopped harrival, hmessage, List.append_nil]
          rfl
      | ok message =>
          refine ⟨[message], ?_⟩
          intro messages
          have hother : Datagram.message (bytes.take (reception.holding messages).capacity) =
              .ok message := hmessage
          rw [step_of_message (hstopped messages) harrival hother,
            step_of_message h.notStopped harrival hmessage]
          simp [holding, witness, store, Inbox.push, h.taker]

theorem store_take (reception : Reception) (bytes : Datagram) :
    reception.store (bytes.take reception.capacity) = reception.store bytes := by
  rw [store, store, List.take_take, Nat.min_self]

/-- Of a datagram only as much is received as there is room for, so no more need arrive. -/
theorem step_take (reception : Reception) (bytes : Datagram) :
    reception.step { arrival := .datagram (bytes.take reception.capacity) } =
      reception.step { arrival := .datagram bytes } := by
  unfold step
  split
  · rfl
  · have hstore := store_take (reception.witness { arrival := .datagram bytes }) bytes
    show ((reception.witness _).store _).2.handOn ((reception.witness _).store _).1 = _
    exact congrArg (fun stored => stored.2.handOn stored.1) hstore

end Reception

namespace Service

/-! ### The two ends of the inbox -/

/-- The dispatcher takes turns until no message is left, or none of them does anything. -/
def dispatchAll (service : Service) : Service := service.dispatchTimes service.waiting.length

/-- The receiver takes datagrams, one after another. -/
def receiveAll (service : Service) (datagrams : List Datagram) : Service :=
  datagrams.foldl (fun service bytes => service.receive (.datagram bytes)) service

@[simp] theorem receiveAll_nil (service : Service) : service.receiveAll [] = service := rfl

@[simp] theorem receiveAll_cons (service : Service) (bytes : Datagram) (datagrams : List Datagram) :
    service.receiveAll (bytes :: datagrams) =
      (service.receive (.datagram bytes)).receiveAll datagrams := rfl

theorem bridge_receiveAll (service : Service) (datagrams : List Datagram) :
    (service.receiveAll datagrams).bridge = service.bridge := by
  induction datagrams generalizing service with
  | nil => rfl
  | cons bytes datagrams ih =>
      rw [receiveAll_cons, ih]
      exact bridge_receive service _

theorem receive_of_receiver {service : Service} (h : service.receiverLost = false)
    (arrival : Arrival) :
    service.receive arrival =
      { service with reception := service.reception.step { arrival } } := by
  simp [receive, h]

theorem isRunning_receive (service : Service) (arrival : Arrival) :
    (service.receive arrival).isRunning = service.isRunning :=
  congrArg Bridge.running (bridge_receive service arrival)

/-- A service that was stopped dispatches nothing. -/
theorem dispatchTimes_of_stopped {service : Service} (h : service.isRunning = false)
    (count : Nat) : service.dispatchTimes count = service := by
  induction count with
  | zero => rfl
  | succ count ih =>
      rw [dispatchTimes, dispatchOnce_of_stopped (by simp [h])]
      exact ih

namespace AtWork

variable {service : Service} (h : service.AtWork)
include h

theorem receive (arrival : Arrival) : (service.receive arrival).AtWork :=
  (h.turn (.receive arrival)).1

theorem dispatchOnce : service.dispatchOnce.1.AtWork := (h.turn .dispatch).1

theorem dispatchTimes (count : Nat) : (service.dispatchTimes count).AtWork := by
  induction count generalizing service with
  | zero => exact h
  | succ count ih => exact ih h.dispatchOnce

/-- A turn of the dispatcher takes one message at most. -/
theorem length_waiting_le : service.waiting.length ≤ service.dispatchOnce.1.waiting.length + 1 := by
  cases hwaiting : service.waiting with
  | nil => exact Nat.zero_le _
  | cons message rest =>
      cases hrunning : service.isRunning with
      | false =>
          rw [dispatchOnce_of_stopped (by simp [hrunning]), hwaiting]
          exact Nat.le_succ _
      | true =>
          rw [dispatchOnce_of_waiting hrunning h.dispatcher hwaiting]
          exact Nat.le_refl _

/-- **The two ends of the inbox**: while a message waits, it does not matter whether the receiver's
turn or the dispatcher's comes first. -/
theorem dispatchOnce_receive (hwaiting : service.waiting ≠ []) (arrival : Arrival) :
    (service.receive arrival).dispatchOnce.1 = service.dispatchOnce.1.receive arrival := by
  have hrunning' := isRunning_receive service arrival
  cases hrunning : service.isRunning with
  | false =>
      rw [hrunning] at hrunning'
      rw [dispatchOnce_of_stopped (by simp [hrunning']),
        dispatchOnce_of_stopped (by simp [hrunning])]
  | true =>
      rw [hrunning] at hrunning'
      obtain ⟨message, rest, hfirst⟩ := List.exists_cons_of_ne_nil hwaiting
      obtain ⟨heard, hstep⟩ := h.reception.step_holding arrival
      -- What is received goes behind the first message, whether or not that has been taken.
      have hreceived : (service.receive arrival).waiting = message :: (rest ++ heard) := by
        have hself := hstep service.reception.inbox.messages
        rw [Reception.holding_self] at hself
        rw [receive_of_receiver h.receiver, waiting, hself]
        exact congrArg (· ++ heard) hfirst
      have hlater : ∀ bridge, Service.receive
          { service with reception := service.reception.holding rest, bridge } arrival =
            { service with
              reception := (service.reception.holding rest).step { arrival }, bridge } := by
        intro bridge
        exact if_neg (by simp [h.receiver])
      rw [dispatchOnce_of_waiting hrunning' (h.receive arrival).dispatcher hreceived,
        dispatchOnce_of_waiting hrunning h.dispatcher hfirst, receive_of_receiver h.receiver]
      refine Eq.trans ?_ (hlater _).symm
      rw [hstep rest]
      rfl

/-- The receiver may wait for as many turns of the dispatcher as there are messages. -/
theorem dispatchTimes_receive (arrival : Arrival) {count : Nat}
    (hcount : count ≤ service.waiting.length) :
    (service.receive arrival).dispatchTimes count =
      (service.dispatchTimes count).receive arrival := by
  induction count generalizing service with
  | zero => rfl
  | succ count ih =>
      have hwaiting : service.waiting ≠ [] :=
        List.ne_nil_of_length_pos (Nat.lt_of_lt_of_le (Nat.succ_pos count) hcount)
      have hrest : count ≤ service.dispatchOnce.1.waiting.length :=
        Nat.le_of_succ_le_succ (hcount.trans h.length_waiting_le)
      show (service.receive arrival).dispatchOnce.1.dispatchTimes count = _
      rw [h.dispatchOnce_receive hwaiting]
      exact ih h.dispatchOnce hrest

/-! ### Nothing left to dispatch -/

theorem dispatchAll_dispatchOnce : service.dispatchOnce.1.dispatchAll = service.dispatchAll := by
  cases hwaiting : service.waiting with
  | nil => rw [dispatchOnce_of_empty h.giver hwaiting]
  | cons message rest =>
      cases hrunning : service.isRunning with
      | false => rw [dispatchOnce_of_stopped (by simp [hrunning])]
      | true =>
          have hrest : service.dispatchOnce.1.waiting = rest := by
            rw [dispatchOnce_of_waiting hrunning h.dispatcher hwaiting]
            rfl
          rw [dispatchAll, dispatchAll, hrest, hwaiting]
          rfl

/-- Turns that the dispatcher had before make no difference to where it ends up. -/
theorem dispatchAll_dispatchTimes (count : Nat) :
    (service.dispatchTimes count).dispatchAll = service.dispatchAll := by
  induction count generalizing service with
  | zero => rfl
  | succ count ih => exact (ih h.dispatchOnce).trans h.dispatchAll_dispatchOnce

/-- When the dispatcher is through, no message waits, unless the service was stopped. -/
theorem waiting_dispatchTimes {count : Nat} (hcount : service.waiting.length ≤ count)
    (hrunning : (service.dispatchTimes count).isRunning = true) :
    (service.dispatchTimes count).waiting = [] := by
  induction count generalizing service with
  | zero => exact List.eq_nil_of_length_eq_zero (Nat.le_zero.mp hcount)
  | succ count ih =>
      refine ih h.dispatchOnce ?_ hrunning
      cases hwaiting : service.waiting with
      | nil =>
          rw [dispatchOnce_of_empty h.giver hwaiting, hwaiting]
          exact Nat.zero_le _
      | cons message rest =>
          cases hnow : service.isRunning with
          | true =>
              rw [dispatchOnce_of_waiting hnow h.dispatcher hwaiting]
              rw [hwaiting] at hcount
              exact Nat.le_of_succ_le_succ hcount
          | false =>
              -- A service that was stopped stays so, and would not be running at the end.
              rw [dispatchTimes_of_stopped hnow, hnow] at hrunning
              exact absurd hrunning (by simp)

/-- **Hearing a datagram** comes to the same whether or not what waited before it has been
dispatched. -/
theorem hear_dispatchAll (bytes : Datagram) :
    service.dispatchAll.hear bytes = (service.receive (.datagram bytes)).dispatchAll := by
  have hlater : service.dispatchAll.receive (.datagram bytes) =
      (service.receive (.datagram bytes)).dispatchTimes service.waiting.length :=
    (h.dispatchTimes_receive _ (Nat.le_refl _)).symm
  show (service.dispatchAll.receive (.datagram bytes)).dispatchAll = _
  rw [hlater]
  exact (h.receive _).dispatchAll_dispatchTimes _

/-- **Hearing datagrams one by one** comes to the same as receiving them all and dispatching what
they said. -/
theorem foldl_hear_dispatchAll (datagrams : List Datagram) :
    datagrams.foldl hear service.dispatchAll = (service.receiveAll datagrams).dispatchAll := by
  induction datagrams generalizing service with
  | nil => rfl
  | cons bytes datagrams ih =>
      rw [List.foldl_cons, receiveAll_cons, h.hear_dispatchAll]
      exact ih (h.receive _)

end AtWork

/-! ### Receiving from the link -/

/-- The service over another link. -/
def onLink (service : Service) (link : Link) : Service :=
  { service with bridge := { service.bridge with link } }

theorem receive_onLink (service : Service) (link : Link) (arrival : Arrival) :
    (service.onLink link).receive arrival = (service.receive arrival).onLink link := by
  cases hlost : service.receiverLost <;> simp [receive, onLink, hlost]

theorem receiveOnce_of_datagram {service : Service} {bytes : Datagram} {link : Link}
    (hreceiver : service.receiverLost = false) (hstopped : service.reception.hasStopped = false)
    (hlink : service.bridge.link.receive service.reception.capacity = (.ok (some bytes), link)) :
    service.receiveOnce = (service.onLink link).receive (.datagram bytes) := by
  rw [receiveOnce, if_neg (by simp [hreceiver, hstopped]), hlink]
  rfl

/-- The receiver takes from the link what lies there, one datagram in each turn. -/
theorem AtWork.receiveTimes_onLink {service : Service} (h : service.AtWork) {link : Link}
    (hbound : link.bound = true) (hfaults : link.receiveFaults = 0) (datagrams : List Datagram) :
    (service.onLink { link with inbound := datagrams }).receiveTimes datagrams.length =
      (service.receiveAll datagrams).onLink { link with inbound := [] } := by
  induction datagrams generalizing service with
  | nil => rfl
  | cons bytes datagrams ih =>
      have hone : (service.onLink { link with inbound := bytes :: datagrams }).receiveOnce =
          (service.receive (.datagram bytes)).onLink { link with inbound := datagrams } := by
        have hlink : Link.receive { link with inbound := bytes :: datagrams }
              service.reception.capacity =
            (.ok (some (bytes.take service.reception.capacity)),
              { link with inbound := datagrams }) := by
          simp [Link.receive, hbound, hfaults]
        have hreceiver : (service.onLink { link with inbound := bytes :: datagrams }).receiverLost =
            false := h.receiver
        rw [receiveOnce_of_datagram hreceiver h.reception.notStopped hlink]
        show (service.onLink { link with inbound := datagrams }).receive
          (.datagram (bytes.take service.reception.capacity)) = _
        rw [receive_onLink, receive_of_receiver h.receiver, receive_of_receiver h.receiver,
          Reception.step_take]
      show (service.onLink { link with inbound := bytes :: datagrams }).receiveOnce.receiveTimes
        datagrams.length = _
      rw [hone]
      exact ih (h.receive _)

end Service

end TelescopeLink
