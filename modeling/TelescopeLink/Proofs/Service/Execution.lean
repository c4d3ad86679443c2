import TelescopeLink.Proofs.Bridge.Ownership
import TelescopeLink.Proofs.Bridge.Stream
import TelescopeLink.Proofs.Registry.FirstFree
import TelescopeLink.Proofs.Service.Conservation

/-!
# Commands executed one after another

A caller that waits for each outcome before it goes on makes one request at a time. What becomes of a
command is not in its hands: the link may be down or come back between two commands, late replies may
be waiting in it or have been taken in by then, and the far end may answer or not (`Circumstances`). But
each command makes one request, under the first number that is free behind the last one, and nothing
else makes another or moves the counter (`executeUnder_spec`), since what comes over the link is about
requests that are there.

`Answers` is the row of commands that were executed, with the number and the outcome of each. It goes
on unless every number is in use (`exists_answers`).
-/

namespace TelescopeLink

/-! ### What stays of a bridge -/

namespace Bridge

/-- The requests that were made: numbers and commands, in order. -/
def roll (bridge : Bridge) : List (Int32 × Command) :=
  bridge.requests.map fun request => (request.sequence, request.command)

/-- Nobody submits anything from a callback, and nothing is amiss. -/
structure Settled (bridge : Bridge) : Prop where
  agrees : bridge.Agrees
  quiet : bridge.Quiet

/-- A settled bridge has become another one without any new request. -/
structure Kept (bridge after : Bridge) : Prop where
  settled : after.Settled
  roll : after.roll = bridge.roll
  last : after.registry.last = bridge.registry.last
  log : bridge.log <+: after.log

/-- Without requests there is nobody who might submit anything. -/
theorem Settled.new (dialect : Dialect) (settings : Settings) (link : Link) :
    (Bridge.new dialect settings link).Settled :=
  ⟨.new dialect settings link, .of_all rfl⟩

theorem Settled.kept {bridge : Bridge} (h : bridge.Settled) : bridge.Kept bridge :=
  ⟨h, rfl, rfl, List.prefix_rfl⟩

theorem Kept.trans {first second third : Bridge} (h : first.Kept second) (h' : second.Kept third) :
    first.Kept third :=
  ⟨h'.settled, h'.roll.trans h.roll, h'.last.trans h.last, h.log.trans h'.log⟩

/-- Requests, numbers and sessions have nothing to do with the link. -/
theorem Settled.withLink {bridge : Bridge} (h : bridge.Settled) (link : Link) (clock : Timestamp) :
    bridge.Kept { bridge with link, clock } :=
  ⟨⟨⟨h.agrees.sound, h.agrees.owner_iff, h.agrees.held, h.agrees.inRange⟩, h.quiet⟩, rfl, rfl,
    List.prefix_rfl⟩

/-- A number that is in use is that of a request. -/
theorem Settled.outstanding_le {bridge : Bridge} (h : bridge.Settled) :
    bridge.outstanding ≤ bridge.roll.length := by
  rw [h.agrees.outstanding_eq, roll, List.length_map]
  exact List.countP_le_length

/-- Moves about requests that are there make no new ones and keep number and command of each. -/
theorem Moves.kept {touched : Nat → Prop} {bridge after : Bridge} (hmoves : Moves touched bridge after)
    (h : bridge.Settled) (htouched : ∀ q, touched q → q < bridge.requests.length) :
    bridge.Kept after where
  settled := ⟨hmoves.agrees h.agrees, h.quiet.of_moves hmoves htouched⟩
  last := hmoves.last_eq htouched
  log := hmoves.log_prefix
  roll := by
    -- Place by place: there are as many requests as before, and each has kept number and command.
    refine List.ext_getElem? ?_
    intro q
    rw [roll, roll, List.getElem?_map, List.getElem?_map]
    cases hrequest : bridge.requests[q]? with
    | none =>
        have hsize := List.getElem?_eq_none_iff.mp hrequest
        rw [List.getElem?_eq_none (hmoves.length_eq htouched ▸ hsize)]
    | some request =>
        obtain ⟨request', hrequest', hprogress⟩ := hmoves.progress hrequest
        rw [hrequest', Option.map_some, Option.map_some, hprogress.sequence, hprogress.command]

/-- Messages are about requests that are there. -/
theorem Settled.run_dispatch {bridge : Bridge} (h : bridge.Settled) (messages : List Message) :
    bridge.Kept (bridge.run (messages.map .dispatch)) :=
  (h.quiet.run_moves h.agrees messages).kept h fun _ => id

/-- A new request gets the first free number. -/
theorem Settled.create {bridge created : Bridge} (h : bridge.Settled) {command : Command}
    {place : Nat} (hcreate : bridge.create command (.single {}) = some (place, created)) :
    created.Settled ∧ ∃ k, bridge.registry.IsFirstFree k ∧
      created.registry.last = Registry.ahead bridge.registry.last k ∧
      created.roll = bridge.roll ++ [(Registry.ahead bridge.registry.last k, command)] := by
  have hagrees := (create_move hcreate).2.agrees h.agrees
  obtain ⟨rfl, n, registry, halloc, rfl⟩ := create_eq_some_iff.mp hcreate
  obtain ⟨k, -, hfirst, rfl⟩ := (Registry.nextFree?_eq_some_iff_isFirstFree h.agrees.sound.last).mp
    (Registry.allocate?_eq_some_iff.mp halloc).1
  refine ⟨⟨hagrees, ?_⟩, k, hfirst, Registry.last_of_allocate? halloc, List.map_append⟩
  intro q session hsession
  obtain ⟨request, hrequest, hheld⟩ := Option.bind_eq_some_iff.mp hsession
  rcases requests_concat_eq_some_iff.mp hrequest with hrequest | ⟨-, rfl⟩
  · exact h.quiet q session ((sessionAt_eq hrequest).trans hheld)
  · obtain rfl := Option.some.inj hheld
    rfl

/-- **A command is submitted** by a caller that submits nothing more: it gets the first free number,
and the bridge has one request more. -/
theorem Settled.submit {bridge after : Bridge} (h : bridge.Settled) {command : Command} {place : Nat}
    {failed : Bool} (hsubmit : bridge.submit command (.single {}) = some (place, after, failed)) :
    after.Settled ∧ ∃ k, bridge.registry.IsFirstFree k ∧
      after.registry.last = Registry.ahead bridge.registry.last k ∧
      after.roll = bridge.roll ++ [(Registry.ahead bridge.registry.last k, command)] := by
  rw [Bridge.submit, Option.map_eq_some_iff] at hsubmit
  obtain ⟨⟨place', created⟩, hcreate, heq⟩ := hsubmit
  obtain ⟨hcreated, k, hfirst, hlast, hroll⟩ := h.create hcreate
  obtain ⟨request, hrequest, -⟩ := create_request hcreate
  obtain ⟨rfl, hsend⟩ := Prod.mk.inj heq
  have hsize := (List.getElem?_eq_some_iff.mp hrequest).1
  have hsent : created.Kept (created.send place').1 := by
    refine (send_moves hcreated.agrees place').kept hcreated ?_
    intro q hq
    rw [hcreated.quiet.eq_of_reach hq]
    exact hsize
  rw [hsend] at hsent
  exact ⟨hsent.settled, k, hfirst, hsent.last.trans hlast, hsent.roll.trans hroll⟩

end Bridge

/-! ### One command -/

/-- What a command meets with: the link as it has become since the last one, the time, how often the
receiver and the dispatcher get their turn before the command is submitted, and the far end. -/
structure Circumstances where
  link : Link
  clock : Timestamp
  farEnd : FarEnd
  received : Nat := 0
  dispatched : Nat := 0

namespace Service

/-- The service as a command meets with it. -/
def meet (service : Service) (circumstances : Circumstances) : Service :=
  ({ service with
      bridge := { service.bridge with
        link := circumstances.link, clock := circumstances.clock } }.receiveTimes
    circumstances.received).dispatchTimes circumstances.dispatched

/-- Executes a command in these circumstances. -/
def executeUnder (service : Service) (circumstances : Circumstances) (command : Command) :
    Option (Outcome × Service) :=
  (service.meet circumstances).execute circumstances.farEnd command

/-- As things are, a command is executed as in these circumstances. -/
theorem executeUnder_self (service : Service) (farEnd : FarEnd) (command : Command) :
    service.executeUnder
        { link := service.bridge.link, clock := service.bridge.clock, farEnd } command =
      service.execute farEnd command := rfl

/-- Nobody has made a request, and the receiver is as well off as before. -/
structure Kept (service after : Service) : Prop where
  bridge : service.bridge.Kept after.bridge
  receiver : after.receiverLost = service.receiverLost

theorem Kept.trans {first second third : Service} (h : first.Kept second) (h' : second.Kept third) :
    first.Kept third :=
  ⟨h.bridge.trans h'.bridge, h'.receiver.trans h.receiver⟩

theorem receiverLost_receive (service : Service) (arrival : Arrival) :
    (service.receive arrival).receiverLost = service.receiverLost := by
  unfold receive
  split <;> rfl

section Kept

variable {service : Service} (h : service.bridge.Settled)
include h

/-- A receiver changes nothing of the bridge but the link that it reads from. -/
theorem kept_receiveOnce : service.Kept service.receiveOnce := by
  unfold receiveOnce
  split
  · exact ⟨h.kept, rfl⟩
  · refine ⟨?_, ?_⟩
    · rw [bridge_receive]
      exact h.withLink _ _
    · exact receiverLost_receive _ _

/-- A dispatcher leads a message to a request that is there. -/
theorem kept_dispatchOnce : service.Kept service.dispatchOnce.1 := by
  refine ⟨?_, ?_⟩
  · have hrun : (service.dispatchOnce.2.map Bridge.Step.dispatch).toList =
        service.dispatchOnce.2.toList.map .dispatch := by
      cases service.dispatchOnce.2 <;> rfl
    rw [bridge_dispatchOnce, hrun]
    exact h.run_dispatch _
  · unfold dispatchOnce
    split
    · split <;> rfl
    · rfl

theorem kept_receiveTimes (count : Nat) : service.Kept (service.receiveTimes count) := by
  induction count generalizing service with
  | zero => exact ⟨h.kept, rfl⟩
  | succ count ih =>
      have hone := kept_receiveOnce h
      exact hone.trans (ih hone.bridge.settled)

theorem kept_dispatchTimes (count : Nat) : service.Kept (service.dispatchTimes count) := by
  induction count generalizing service with
  | zero => exact ⟨h.kept, rfl⟩
  | succ count ih =>
      have hone := kept_dispatchOnce h
      exact hone.trans (ih hone.bridge.settled)

theorem kept_settle : service.Kept service.settle := by
  have hreceived := kept_receiveTimes h
    (service.bridge.link.receiveFaults + service.bridge.link.inbound.length)
  exact hreceived.trans (kept_dispatchTimes hreceived.bridge.settled _)

/-- **What is answered** makes no requests. -/
theorem kept_exchange (farEnd : FarEnd) (before : Nat) :
    service.Kept (service.exchange farEnd before) := by
  have hlink : ∀ link, service.Kept { service with bridge := { service.bridge with link } } :=
    fun link => ⟨h.withLink link _, rfl⟩
  exact (hlink _).trans (kept_settle (hlink _).bridge.settled)

theorem kept_meet (circumstances : Circumstances) : service.Kept (service.meet circumstances) := by
  have hlink : service.Kept { service with
      bridge := { service.bridge with
        link := circumstances.link, clock := circumstances.clock } } := ⟨h.withLink _ _, rfl⟩
  have hreceived := hlink.trans (kept_receiveTimes hlink.bridge.settled circumstances.received)
  exact hreceived.trans (kept_dispatchTimes hreceived.bridge.settled circumstances.dispatched)

/-- **One command**, whatever becomes of it: it is answered unless every number is in use. Its request
gets the first number that is free, and is the only one that is made. -/
theorem executeUnder_spec (circumstances : Circumstances) (command : Command) :
    match service.executeUnder circumstances command with
    | none => Registry.numberCount ≤ (service.meet circumstances).bridge.outstanding
    | some (_, after) => after.bridge.Settled ∧ after.receiverLost = service.receiverLost ∧
        ∃ k, (service.meet circumstances).bridge.registry.IsFirstFree k ∧
          after.bridge.registry.last = Registry.ahead service.bridge.registry.last k ∧
          after.bridge.roll =
            service.bridge.roll ++ [(Registry.ahead service.bridge.registry.last k, command)] := by
  have hmet := kept_meet h circumstances
  rw [executeUnder, execute, Service.submit]
  cases hsubmit : (service.meet circumstances).bridge.submit command (.single {}) with
  | none =>
      -- With a number left to hand out there would have been a request.
      refine Nat.not_lt.mp ?_
      intro hfree
      obtain ⟨place, after, hcreate⟩ :=
        hmet.bridge.settled.agrees.exists_create hfree command (.single {})
      rw [Bridge.submit, hcreate] at hsubmit
      exact absurd hsubmit (by simp)
  | some submitted =>
      obtain ⟨place, submitted, failed⟩ := submitted
      obtain ⟨hsettled, k, hfirst, hlast, hroll⟩ := hmet.bridge.settled.submit hsubmit
      let waiting : Service := { service.meet circumstances with bridge := submitted }
      have hwaiting : waiting.bridge.Settled := hsettled
      have hkept := kept_exchange hwaiting circumstances.farEnd
        (service.meet circumstances).bridge.link.sent.length
      rw [hmet.bridge.last] at hlast hroll
      rw [hmet.bridge.roll] at hroll
      -- The goal has the service written out. Compared with a folded one, the exchange is unfolded.
      dsimp only [waiting] at hkept
      exact ⟨hkept.bridge.settled, hkept.receiver.trans hmet.receiver, k, hfirst,
        hkept.bridge.last.trans hlast, hkept.bridge.roll.trans hroll⟩

end Kept

/-! ### One command after another -/

/-- A command that was executed, with its number and its outcome. -/
structure Answer where
  command : Command
  number : Int32
  outcome : Outcome

/-- What becomes of commands that are executed one after another, each in the circumstances that the
service meets with by then. Each gets the first number that is free behind the one before. -/
inductive Answers (meets : Service → Command → Circumstances) :
    Service → List Answer → Service → Prop
  | nil (service : Service) : Answers meets service [] service
  | cons {service next after : Service} {answer : Answer} {answers : List Answer} {k : Nat}
      (hexecute : service.executeUnder (meets service answer.command) answer.command =
        some (answer.outcome, next))
      (hfirst : (service.meet (meets service answer.command)).bridge.registry.IsFirstFree k)
      (hnumber : answer.number = Registry.ahead service.bridge.registry.last k)
      (hlast : next.bridge.registry.last = answer.number)
      (hrest : Answers meets next answers after) : Answers meets service (answer :: answers) after

variable {meets : Service → Command → Circumstances}

theorem bridge_new (settings : Settings) (dialect : Dialect) (link : Link) :
    (Service.new settings dialect link).bridge = .new dialect settings link := by
  unfold Service.new
  dsimp only
  split <;> rfl

theorem settled_new (settings : Settings) (dialect : Dialect) (link : Link) :
    (Service.new settings dialect link).bridge.Settled :=
  bridge_new settings dialect link ▸ .new dialect settings link

/-- A service whose receiver is there is shut down without complaint. -/
theorem shutdown_of_receiver {service : Service} (h : service.receiverLost = false) :
    service.shutdown.1 = .ok () := by
  unfold shutdown
  split
  · rfl
  · rw [h]
    rfl

/-- **Commands are answered one after another**, unless every number is in use at one of them. -/
theorem exists_answers {service : Service} (h : service.bridge.Settled) (commands : List Command) :
    (∃ answers after, Answers meets service answers after ∧ answers.map (·.command) = commands) ∨
      ∃ answers command rest busy, commands = answers.map (·.command) ++ command :: rest ∧
        Answers meets service answers busy ∧
          busy.executeUnder (meets busy command) command = none ∧
            Registry.numberCount ≤ (busy.meet (meets busy command)).bridge.outstanding := by
  -- Command by command; what is kept is that the bridge is settled.
  induction commands generalizing service with
  | nil => exact Or.inl ⟨[], service, .nil service, rfl⟩
  | cons command commands ih =>
      have hspec := executeUnder_spec h (meets service command) command
      cases hexecute : service.executeUnder (meets service command) command with
      | none =>
          rw [hexecute] at hspec
          exact Or.inr ⟨[], command, commands, service, rfl, .nil service, hexecute, hspec⟩
      | some result =>
          obtain ⟨outcome, next⟩ := result
          rw [hexecute] at hspec
          obtain ⟨hsettled, -, k, hfirst, hlast, -⟩ := hspec
          let answer : Answer := ⟨command, Registry.ahead service.bridge.registry.last k, outcome⟩
          have hcons : ∀ {answers after}, Answers meets next answers after →
              Answers meets service (answer :: answers) after :=
            fun hrest => .cons hexecute hfirst rfl hlast hrest
          rcases ih hsettled with ⟨answers, after, hrest, rfl⟩ |
            ⟨answers, stuck, rest, busy, rfl, hrest, hbusy⟩
          · exact Or.inl ⟨answer :: answers, after, hcons hrest, rfl⟩
          · exact Or.inr ⟨answer :: answers, stuck, rest, busy, rfl, hcons hrest, hbusy⟩

/-- **What is left of them**: one request for each command, under its number, and nothing else. -/
theorem Answers.roll {service after : Service} {answers : List Answer}
    (hanswers : Answers meets service answers after) (h : service.bridge.Settled) :
    after.bridge.Settled ∧ after.receiverLost = service.receiverLost ∧
      after.bridge.roll = service.bridge.roll ++ answers.map fun answer =>
        (answer.number, answer.command) := by
  induction hanswers with
  | nil service => exact ⟨h, rfl, by simp⟩
  | @cons service next after answer answers k hexecute hfirst hnumber hlast hrest ih =>
      have hspec := executeUnder_spec h (meets service answer.command) answer.command
      rw [hexecute] at hspec
      obtain ⟨hsettled, hreceiver, k', -, hlast', hroll⟩ := hspec
      obtain ⟨hafter, hreceiver', hroll'⟩ := ih hsettled
      refine ⟨hafter, hreceiver'.trans hreceiver, ?_⟩
      rw [hroll', hroll, ← hlast', hlast, List.append_assoc]
      rfl

/-- Every number can only be in use behind as many commands as there are numbers. -/
theorem Answers.numberCount_le {service after : Service} {answers : List Answer}
    (hanswers : Answers meets service answers after) (h : service.bridge.Settled)
    {circumstances : Circumstances}
    (hfull : Registry.numberCount ≤ (after.meet circumstances).bridge.outstanding) :
    Registry.numberCount ≤ service.bridge.roll.length + answers.length := by
  obtain ⟨hafter, -, hroll⟩ := hanswers.roll h
  have hmet := (kept_meet hafter circumstances).bridge
  have hlength := congrArg List.length (hmet.roll.trans hroll)
  rw [List.length_append, List.length_map] at hlength
  exact hfull.trans (hmet.settled.outstanding_le.trans hlength.le)

end Service

end TelescopeLink
