import TelescopeLink.Proofs.Bridge.Submission
import TelescopeLink.Proofs.Service.Execution
import TelescopeLink.Proofs.Service.Hearing
import TelescopeLink.Service.Caller

/-!
# What a caller over a wire goes on with

The wire hands on one datagram after another, and between two of them the caller looks whether it
may go on. `Awaits` says how such a wait can go, whatever the clock shows and however long the wire
is silent. What the caller goes on with, and what has become of the service by then, is what
`execute` gives with a far end that answers with the datagrams that were heard, and at once
(`executeUnder_of_awaits`). So what holds of commands executed one after another holds over a wire.

Three facts carry this.

* Whether datagrams are heard one by one or received together makes no difference to the service
  (`exchange_eq_foldl_hear`).
* What a slot says at the end of a wait depends on the visits there and not on their moments: these
  decide about the deadline, and so only about when the wait is over (`Slot.Alike`).
* A caller whose command put nothing on the link has been told why not when it first looks, so it
  hears nothing (`Awaits.heard_nothing`).
-/

namespace TelescopeLink

/-! ### Slots and moments -/

namespace Slot

/-- What whoever is through with waiting gets. -/
def found (slot : Slot) : Outcome := slot.held.getD slot.timeout

/-- Two slots that differ in their deadlines only. -/
structure Alike (slot other : Slot) : Prop where
  held : slot.held = other.held
  keepAlives : slot.keepAlives = other.keepAlives

/-- When somebody visits makes no difference but to the deadline. -/
theorem Alike.visitAll {slot other : Slot} (h : slot.Alike other) (now moment : Nat)
    (visits : List Visit) : (slot.visitAll now visits).Alike (other.visitAll moment visits) := by
  -- Visit by visit. Moments only go into the deadline, and it is not compared.
  induction visits generalizing slot other with
  | nil => exact h
  | cons visit visits ih =>
      rw [visitAll_cons, visitAll_cons]
      refine ih ?_
      cases visit with
      | keepAlive timeToComplete => exact ⟨h.held, congrArg (· + 1) h.keepAlives⟩
      | done outcome => exact ⟨rfl, h.keepAlives⟩

theorem Alike.found {slot other : Slot} (h : slot.Alike other) : slot.found = other.found := by
  rw [Slot.found, Slot.found, h.held, timeout, timeout, h.keepAlives]

theorem visitAll_append (slot : Slot) (now : Nat) (visits later : List Visit) :
    slot.visitAll now (visits ++ later) = (slot.visitAll now visits).visitAll now later :=
  List.foldl_append ..

/-- Whoever looks and may go on goes on with what is found. -/
theorem eq_found_of_look {slot : Slot} {now : Nat} {outcome : Outcome}
    (h : slot.look now = .ok outcome) : outcome = slot.found := by
  rw [found]
  unfold look at h
  cases hheld : slot.held with
  | some held =>
      rw [hheld] at h
      exact (Except.ok.inj h).symm
  | none =>
      rw [hheld] at h
      dsimp only at h
      split at h
      · cases h
      · exact (Except.ok.inj h).symm

/-- A wait during which nobody visits ends with what is found. -/
theorem outcome_wait_nil (slot : Slot) (now : Nat) (initial : Span) :
    (slot.wait now initial []).outcome = slot.found := by
  have halike : (slot.extendTo (now + initial.nanos)).Alike slot := ⟨rfl, rfl⟩
  rw [← halike.found, wait, await, found]
  cases (slot.extendTo (now + initial.nanos)).held <;> rfl

end Slot

/-! ### How a wait can go -/

namespace Caller

/-- A caller that hears these datagrams, one after another, goes on with an outcome and leaves this
service. The clock may show anything when it looks, and it may look more often than it hears. -/
inductive Awaits : Caller → List Datagram → Outcome → Service → Prop
  /-- There is an outcome, or the time is up. -/
  | ends {caller next : Caller} {moment : Nat} {outcome : Outcome}
      (hlook : caller.look moment = (next, .ok outcome)) : Awaits caller [] outcome next.service
  /-- A datagram comes while the caller waits on. -/
  | hears {caller next : Caller} {moment remaining : Nat} {bytes : Datagram}
      {datagrams : List Datagram} {outcome : Outcome} {after : Service}
      (hlook : caller.look moment = (next, .error remaining))
      (hrest : Awaits (next.hear bytes) datagrams outcome after) :
      Awaits caller (bytes :: datagrams) outcome after
  /-- None comes, and the caller looks again. -/
  | idles {caller next : Caller} {moment remaining : Nat} {datagrams : List Datagram}
      {outcome : Outcome} {after : Service}
      (hlook : caller.look moment = (next, .error remaining))
      (hrest : Awaits next datagrams outcome after) : Awaits caller datagrams outcome after

/-- The slot holds what the visits that the caller has seen leave there. -/
structure Abreast (caller : Caller) : Prop where
  seen : caller.seen ≤ (caller.service.visits caller.place).length
  slot : caller.slot.Alike
    (({} : Slot).visitAll 0 ((caller.service.visits caller.place).take caller.seen))

theorem Abreast.new (service : Service) (place moment : Nat) :
    (Caller.new service place moment).Abreast :=
  ⟨Nat.zero_le _, ⟨rfl, rfl⟩⟩

/-- Behind a look the slot holds what all visits leave there. -/
theorem Abreast.refresh {caller : Caller} (h : caller.Abreast) (moment : Nat) :
    (caller.refresh moment).Abreast ∧
      (caller.refresh moment).slot.Alike
        (({} : Slot).visitAll 0 (caller.service.visits caller.place)) := by
  have hslot : (caller.refresh moment).slot.Alike
      (({} : Slot).visitAll 0 (caller.service.visits caller.place)) := by
    have hrest := h.slot.visitAll moment 0 ((caller.service.visits caller.place).drop caller.seen)
    rwa [← Slot.visitAll_append, List.take_append_drop] at hrest
  refine ⟨⟨Nat.le_refl _, ?_⟩, hslot⟩
  show (caller.refresh moment).slot.Alike (({} : Slot).visitAll 0
    ((caller.service.visits caller.place).take (caller.service.visits caller.place).length))
  rwa [List.take_length]

end Caller

/-! ### A command that is submitted -/

/-- **A command whose caller only waits** puts one datagram on the link, or its caller is told the
outcome at once. -/
theorem Bridge.submit_single {bridge after : Bridge} {command : Command} {place : Nat}
    {failed : Bool} (h : bridge.submit command (.single {}) = some (place, after, failed)) :
    after.running = bridge.running ∧
      ((∃ bytes, after.link = bridge.link.post [bytes]) ∨
        after.link = bridge.link ∧ ∃ callback outcome, after.log = bridge.log ++ [callback] ∧
          callback.request = place ∧ callback.notice = .done outcome) := by
  obtain ⟨rfl, n, fate, -, hresult⟩ := eq_submitted_of_submit h
  have hafter := congrArg Prod.fst hresult
  cases fate with
  | sent text =>
      obtain rfl : after = bridge.underway command (.single {}) n text := hafter
      exact ⟨rfl, .inl ⟨_, rfl⟩⟩
  | refused refusal =>
      obtain rfl : after = bridge.settled command (.single {}) n none _ := hafter
      exact ⟨Bool.and_true _, .inr ⟨rfl, _, _, rfl, rfl, rfl⟩⟩
  | wordless =>
      obtain rfl : after = bridge.settled command (.single {}) n none _ := hafter
      exact ⟨Bool.and_true _, .inr ⟨rfl, _, _, rfl, rfl, rfl⟩⟩
  | unsent text error =>
      obtain rfl : after = bridge.settled command (.single {}) n (some text) _ := hafter
      exact ⟨Bool.and_true _, .inr ⟨rfl, _, _, rfl, rfl, rfl⟩⟩

namespace Service

/-! ### A service between two datagrams -/

/-- Messages about requests that are there put nothing on the link. -/
theorem link_dispatchTimes {service : Service} (h : service.bridge.Settled) (count : Nat) :
    (service.dispatchTimes count).bridge.link = service.bridge.link := by
  induction count generalizing service with
  | zero => rfl
  | succ count ih =>
      have hone : service.dispatchOnce.1.bridge.link = service.bridge.link := by
        rw [bridge_dispatchOnce]
        cases service.dispatchOnce.2 with
        | none => rfl
        | some message => exact h.quiet.dispatch_link h.agrees message
      exact (ih (kept_dispatchOnce h).bridge.settled).trans hone

/-- A service over a wire, between two datagrams: all it has heard is dispatched, unless it was
stopped, and nothing lies in the link, since the wire hands datagrams to the receiver itself. -/
structure Idle (service : Service) : Prop where
  work : service.AtWork
  bridge : service.bridge.Settled
  drained : service.isRunning = true → service.waiting = []
  bound : service.bridge.link.bound = true
  inbound : service.bridge.link.inbound = []
  faults : service.bridge.link.receiveFaults = 0

/-- A new service over a network is idle, if there can be a buffer as large as the settings want
it. -/
theorem Idle.new {settings : Settings} (dialect : Dialect) {link : Link}
    (hlink : openNetwork false none settings.network = .ok link)
    (h : settings.network.receiveBuffer.toNat ≤ Reception.maxCapacity) :
    (Service.new settings dialect link).Idle := by
  obtain ⟨hwork, hwaiting⟩ := new_atWork dialect link h
  obtain rfl : link = { medium := .network } := by
    unfold openNetwork at hlink
    split at hlink
    · cases hlink
    · exact (Except.ok.inj hlink).symm
  refine ⟨hwork, settled_new settings dialect _, fun _ => hwaiting, ?_, ?_, ?_⟩
  all_goals
    rw [bridge_new]
    rfl

/-- What is told to a caller goes behind what it was told before. -/
theorem visits_prefix {service after : Service} (h : service.bridge.log <+: after.bridge.log)
    (place : Nat) : service.visits place <+: after.visits place :=
  (h.filter _).map _

/-- A caller that was told the outcome last finds it at the end of its visits. -/
theorem exists_visits_of_told {service : Service} {log : List Callback} {callback : Callback}
    {place : Nat} {outcome : Outcome} (hlog : service.bridge.log = log ++ [callback])
    (hplace : callback.request = place) (hnotice : callback.notice = .done outcome) :
    ∃ visits outcome, service.visits place = visits ++ [.done outcome] := by
  rw [visits, hlog, List.filter_append, List.map_append]
  refine ⟨_, outcome, congrArg₂ (· ++ ·) rfl ?_⟩
  simp [hplace, hnotice]

theorem foldl_inject (link : Link) (datagrams : List Datagram) :
    datagrams.foldl Link.inject link = { link with inbound := link.inbound ++ datagrams } := by
  induction datagrams generalizing link with
  | nil => simp
  | cons bytes datagrams ih =>
      rw [List.foldl_cons, ih]
      simp [Link.inject]

namespace Idle

variable {service : Service} (h : service.Idle)
include h

theorem dispatchAll : service.dispatchAll = service := by
  cases hrunning : service.isRunning with
  | false => exact dispatchTimes_of_stopped hrunning _
  | true =>
      rw [Service.dispatchAll, h.drained hrunning]
      rfl

/-- **Hearing a datagram** leaves the service idle, and what its callers were told stays told. -/
theorem hear (bytes : Datagram) :
    (service.hear bytes).Idle ∧ service.bridge.log <+: (service.hear bytes).bridge.log := by
  have hbridge := bridge_receive service (.datagram bytes)
  have hsettled : (service.receive (.datagram bytes)).bridge.Settled := hbridge ▸ h.bridge
  have hwork := h.work.receive (.datagram bytes)
  have hkept := kept_dispatchTimes hsettled (service.receive (.datagram bytes)).waiting.length
  have hlink : (service.hear bytes).bridge.link = service.bridge.link :=
    (link_dispatchTimes hsettled _).trans (congrArg Bridge.link hbridge)
  refine ⟨⟨hwork.dispatchTimes _, hkept.bridge.settled, hwork.waiting_dispatchTimes (Nat.le_refl _),
    hlink ▸ h.bound, hlink ▸ h.inbound, hlink ▸ h.faults⟩, ?_⟩
  rw [← hbridge]
  exact hkept.bridge.log

/-- **Answers that arrive at once** are heard one after another. -/
theorem exchange_eq_foldl_hear {farEnd : FarEnd} {before : Nat} {datagrams : List Datagram}
    (hanswers : ((List.range' before (service.bridge.link.sent.length - before)).flatMap fun i =>
      farEnd (service.bridge.link.sent.take (i + 1))) = datagrams) :
    service.exchange farEnd before = datagrams.foldl Service.hear service := by
  have hlink : datagrams.foldl Link.inject service.bridge.link =
      { service.bridge.link with inbound := datagrams } := by
    rw [foldl_inject, h.inbound, List.nil_append]
  have hempty : { service.bridge.link with inbound := [] } = service.bridge.link := by
    rw [← h.inbound]
  calc service.exchange farEnd before
      = (service.onLink { service.bridge.link with inbound := datagrams }).settle := by
        rw [exchange, hanswers, hlink]
        rfl
    _ = ((service.onLink { service.bridge.link with inbound := datagrams }).receiveTimes
          datagrams.length).dispatchAll := by
        show ((service.onLink _).receiveTimes
          (service.bridge.link.receiveFaults + datagrams.length)).dispatchAll = _
        rw [h.faults, Nat.zero_add]
    _ = (service.receiveAll datagrams).dispatchAll := by
        rw [h.work.receiveTimes_onLink h.bound h.faults, hempty,
          ← bridge_receiveAll service datagrams]
        rfl
    _ = datagrams.foldl Service.hear service := by
        rw [← h.work.foldl_hear_dispatchAll, h.dispatchAll]

/-- **Submitting a command** leaves the service idle. Either one datagram more is on the link, or the
caller has been told the outcome. -/
theorem submitUnder {clock : Timestamp} {refusal : Option IoFault} {command : Command} {place : Nat}
    {submitted : Service}
    (hsubmit : service.submitUnder clock refusal command = some (place, submitted)) :
    submitted.Idle ∧
      ((∃ bytes, submitted.bridge.link.sent = service.bridge.link.sent ++ [bytes]) ∨
        submitted.bridge.link.sent = service.bridge.link.sent ∧
          ∃ visits outcome, submitted.visits place = visits ++ [.done outcome]) := by
  let link : Link := { service.bridge.link with refusal }
  have hkept := h.bridge.withLink link clock
  rw [Service.submitUnder, Service.submit, Option.map_eq_some_iff] at hsubmit
  obtain ⟨⟨place', bridge, failed⟩, hsubmit, heq⟩ := hsubmit
  obtain ⟨rfl, rfl⟩ := Prod.mk.inj heq
  obtain ⟨hsettled, -⟩ := hkept.settled.submit hsubmit
  obtain ⟨hrunning, hway⟩ := Bridge.submit_single hsubmit
  -- Receiver and dispatcher have nothing to do with it, and the link has but one datagram more.
  have hidle : bridge.link.bound = true → bridge.link.inbound = [] →
      bridge.link.receiveFaults = 0 → Idle { service with bridge } := by
    intro hbound hinbound hfaults
    refine ⟨⟨h.work.receiver, h.work.reception, h.work.dispatcher, h.work.giver⟩, hsettled, ?_,
      hbound, hinbound, hfaults⟩
    intro hnow
    exact h.drained (hrunning.symm.trans hnow)
  rcases hway with ⟨bytes, hlink⟩ | ⟨hlink, callback, outcome, hlog, hplace, hnotice⟩
  · rw [hlink] at hidle
    have hsent : bridge.link.sent = service.bridge.link.sent ++ [bytes] := by
      rw [hlink]
      rfl
    exact ⟨hidle h.bound h.inbound h.faults, .inl ⟨bytes, hsent⟩⟩
  · rw [hlink] at hidle
    have hsent : bridge.link.sent = service.bridge.link.sent := by rw [hlink]
    exact ⟨hidle h.bound h.inbound h.faults,
      .inr ⟨hsent, exists_visits_of_told hlog hplace hnotice⟩⟩

end Idle

/-- The datagram that the wire is asked about is the one that a link that takes it gets. -/
theorem sent_of_submitUnder {service submitted : Service} (h : service.Idle) {clock : Timestamp}
    {command : Command} {place : Nat}
    (hsubmit : service.submitUnder clock none command = some (place, submitted)) :
    submitted.bridge.link.sent =
      service.bridge.link.sent ++ (service.posted? clock command).toList := by
  have hposted : service.posted? clock command =
      (submitted.bridge.link.sent.drop service.bridge.link.sent.length).head? := by
    rw [posted?, hsubmit]
    rfl
  obtain ⟨-, ⟨bytes, hsent⟩ | ⟨hsent, -⟩⟩ := h.submitUnder hsubmit
  · rw [hposted, hsent, List.drop_left]
    rfl
  · rw [hposted, hsent, List.drop_length]
    exact (List.append_nil _).symm

end Service

/-! ### The whole wait -/

namespace Caller

/-- A caller that has seen what there is keeps step when a datagram is heard. -/
theorem Abreast.hear {caller : Caller} (h : caller.Abreast) (hidle : caller.service.Idle)
    (bytes : Datagram) : (caller.hear bytes).Abreast := by
  obtain ⟨later, hvisits⟩ := Service.visits_prefix (hidle.hear bytes).2 caller.place
  have hgrown : (caller.hear bytes).service.visits caller.place =
      caller.service.visits caller.place ++ later := hvisits.symm
  refine ⟨?_, ?_⟩
  · show caller.seen ≤ ((caller.hear bytes).service.visits caller.place).length
    rw [hgrown, List.length_append]
    exact h.seen.trans (Nat.le_add_right ..)
  · show caller.slot.Alike (({} : Slot).visitAll 0
      (((caller.hear bytes).service.visits caller.place).take caller.seen))
    rw [hgrown, List.take_append_of_le_length h.seen]
    exact h.slot

/-- **A whole wait**: the service has heard the datagrams one after another, and the caller goes on
with what the visits at its place leave in a slot. -/
theorem Awaits.eq_foldl_hear {caller : Caller} {datagrams : List Datagram} {outcome : Outcome}
    {after : Service} (h : caller.Awaits datagrams outcome after) (hidle : caller.service.Idle)
    (habreast : caller.Abreast) :
    after.Idle ∧ after = datagrams.foldl Service.hear caller.service ∧
      outcome = (({} : Slot).visitAll 0 (after.visits caller.place)).found := by
  -- Look by look: the service stays idle, and the slot abreast of what the caller was told.
  induction h with
  | @ends caller next moment outcome hlook =>
      obtain ⟨rfl, hfound⟩ := Prod.mk.inj hlook
      refine ⟨hidle, rfl, ?_⟩
      rw [Slot.eq_found_of_look hfound]
      exact (habreast.refresh moment).2.found
  | @hears caller next moment remaining bytes datagrams outcome after hlook hrest ih =>
      obtain ⟨rfl, -⟩ := Prod.mk.inj hlook
      exact ih (hidle.hear bytes).1 ((habreast.refresh moment).1.hear hidle bytes)
  | @idles caller next moment remaining datagrams outcome after hlook hrest ih =>
      obtain ⟨rfl, -⟩ := Prod.mk.inj hlook
      exact ih hidle (habreast.refresh moment).1

/-- A caller that has been told the outcome hears nothing. -/
theorem Awaits.heard_nothing {caller : Caller} {datagrams : List Datagram} {outcome : Outcome}
    {after : Service} (h : caller.Awaits datagrams outcome after) (habreast : caller.Abreast)
    {visits : List Slot.Visit} {told : Outcome}
    (htold : caller.service.visits caller.place = visits ++ [.done told]) : datagrams = [] := by
  have hlooks : ∀ {moment : Nat} {next : Caller} {result : Except Nat Outcome},
      caller.look moment = (next, result) → result = .ok told := by
    intro moment next result hlook
    have halike := (habreast.refresh moment).2
    rw [htold, Slot.visitAll_append] at halike
    have hheld : (caller.refresh moment).slot.held = some told := halike.held
    obtain ⟨-, rfl⟩ := Prod.mk.inj hlook
    rw [Slot.look, hheld]
  cases h with
  | ends hlook => rfl
  | hears hlook hrest => cases hlooks hlook
  | idles hlook hrest => cases hlooks hlook

end Caller

namespace Service

/-- **A command over a wire.** Whatever the wire had against its datagram, whatever was heard while
the caller waited and whatever the clock showed: the outcome that the caller goes on with and the
service it leaves are those of the command executed over a link that refuses what the wire refused,
with a far end that answers with the datagrams that were heard. And the service is ready for the next
command. -/
theorem executeUnder_of_awaits {service submitted after : Service} (h : service.Idle)
    {clock : Timestamp} {refusal : Option IoFault} {command : Command} {place : Nat}
    (hsubmit : service.submitUnder clock refusal command = some (place, submitted)) {moment : Nat}
    {datagrams : List Datagram} {outcome : Outcome}
    (hawaits : (Caller.new submitted place moment).Awaits datagrams outcome after) {farEnd : FarEnd}
    (hanswers : farEnd submitted.bridge.link.sent = datagrams) :
    service.executeUnder { link := { service.bridge.link with refusal }, clock, farEnd } command =
        some (outcome, after) ∧
      after.Idle := by
  have habreast := Caller.Abreast.new submitted place moment
  obtain ⟨hidle, hway⟩ := h.submitUnder hsubmit
  obtain ⟨hafter, hheard, houtcome⟩ := hawaits.eq_foldl_hear hidle habreast
  have hexchange : submitted.exchange farEnd service.bridge.link.sent.length = after := by
    rw [hheard]
    refine hidle.exchange_eq_foldl_hear ?_
    rcases hway with ⟨bytes, hsent⟩ | ⟨hsent, visits, told, htold⟩
    · -- One datagram was sent, so the far end is asked once, with all that it has got.
      have hall : submitted.bridge.link.sent.take (service.bridge.link.sent.length + 1) =
          submitted.bridge.link.sent := List.take_of_length_le (by simp [hsent])
      have hone : submitted.bridge.link.sent.length - service.bridge.link.sent.length = 1 := by
        simp [hsent]
      rw [hone, List.range'_one, List.flatMap_singleton, hall, hanswers]
    · rw [hawaits.heard_nothing habreast htold, hsent, Nat.sub_self]
      rfl
  refine ⟨?_, hafter⟩
  show (service.submitUnder clock refusal command).map _ = _
  rw [hsubmit, Option.map_some, houtcome]
  show some (((({} : Slot).visitAll 0
    ((submitted.exchange farEnd service.bridge.link.sent.length).visits place)).wait 0 _ []).outcome,
      submitted.exchange farEnd service.bridge.link.sent.length) = _
  rw [hexchange, Slot.outcome_wait_nil]
  rfl

/-- A command that cannot be submitted over the wire cannot be executed. -/
theorem executeUnder_eq_none_iff {service : Service} {clock : Timestamp} {refusal : Option IoFault}
    {command : Command} {farEnd : FarEnd} :
    service.executeUnder { link := { service.bridge.link with refusal }, clock, farEnd } command =
        none ↔
      service.submitUnder clock refusal command = none :=
  Option.map_eq_none_iff

end Service

end TelescopeLink
