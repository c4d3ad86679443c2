import TelescopeLink.Proofs.Bridge.Ownership
import TelescopeLink.Proofs.Bridge.Stream

/-!
# Failing callbacks are contained

A callback that fails leaves nothing undone. The bridge is compared with its `calm` copy, in which
the same callers do the same things in callbacks that do not fail: every operation does the same to
both (`step_calm`, `run_calm`), so two histories that differ only in which callbacks fail lead to
bridges that differ in nothing else.

In the other direction, an operation is said to have failed only if a callback that it made failed
(`complete_fails`). The bridge could fail by itself in two places, and does in neither: the
stretched estimate is always a span, and a caller that submits a further command when its request is
over always gets a number, since one has just been released.
-/

namespace TelescopeLink

/-! ### Callers that do not fail -/

/-- The same conduct, in callbacks that do not fail. -/
def Conduct.calm (conduct : Conduct) : Conduct :=
  { conduct with failsKeepAlive := fun _ => false, failsDone := false }

/-- The same caller, with callbacks that do not fail. -/
def Session.calm : Session → Session
  | .single conduct => .single conduct.calm
  | .chain conduct command next => .chain conduct.calm command next.calm

@[simp] theorem Session.conduct_calm (session : Session) :
    session.calm.conduct = session.conduct.calm := by
  cases session <;> rfl

/-- The same request, of a caller whose callbacks do not fail. -/
def Request.calm (request : Request) : Request :=
  { request with session := request.session.map Session.calm }

@[simp] theorem Request.completed_calm (request : Request) :
    request.calm.completed = request.completed := rfl

@[simp] theorem Request.session_calm (request : Request) :
    request.calm.session = request.session.map Session.calm := rfl

@[simp] theorem Request.keepAlives_calm (request : Request) :
    request.calm.keepAlives = request.keepAlives := rfl

@[simp] theorem Request.hear_calm (request : Request) (text : String) :
    request.calm.hear text = (request.hear text).calm := rfl

/-- What of a request can be seen from outside. -/
def Request.outline (request : Request) :
    Int32 × RequestState × Option Span × Option String :=
  (request.sequence, request.state, request.handlingTime?, request.wireText)

/-- A callback of the session fails, when it has been told so many keep-alives and is told these
notices now. What comes behind an outcome is told to the session of the command that it submits. -/
def Session.fails : Session → (told : Nat) → List Notice → Bool
  | _, _, [] => false
  | session, told, .keepAlive _ :: rest =>
    session.conduct.failsKeepAlive told || session.fails (told + 1) rest
  | .single conduct, _, .done _ :: _ => conduct.failsDone
  | .chain conduct _ next, _, .done _ :: rest => conduct.failsDone || next.fails 0 rest

namespace Bridge

/-- The same bridge, with callers whose callbacks do not fail. -/
def calm (bridge : Bridge) : Bridge :=
  { bridge with requests := bridge.requests.map Request.calm }

/-- The same step, with a caller whose callbacks do not fail. -/
def Step.calm : Step → Step
  | .create command session => .create command session.calm
  | .submit command session => .submit command session.calm
  | step => step

/-- What a step reports, whether or not a callback failed. -/
def Report.calm : Report → Report
  | .finished _ => .finished false
  | .dispatched .faulted => .dispatched .delivered
  | report => report

/-! ### Operations of a calm bridge -/

theorem getElem?_requests_calm (bridge : Bridge) (place : Nat) :
    bridge.calm.requests[place]? = bridge.requests[place]?.map Request.calm :=
  List.getElem?_map

theorem length_requests_calm (bridge : Bridge) :
    bridge.calm.requests.length = bridge.requests.length := List.length_map _

theorem calm_modifyRequest (bridge : Bridge) (place : Nat) (change : Request → Request)
    (h : ∀ request, (change request).calm = change request.calm) :
    (bridge.modifyRequest place change).calm = bridge.calm.modifyRequest place change := by
  have hrequests : (bridge.requests.modify place change).map Request.calm =
      (bridge.requests.map Request.calm).modify place change := by
    refine List.ext_getElem? fun q => ?_
    rw [List.getElem?_modify, List.getElem?_map, List.getElem?_map, List.getElem?_modify]
    cases bridge.requests[q]? with
    | none => rfl
    | some request => by_cases hq : place = q <;> simp [hq, h]
  exact congrArg (fun requests => { bridge with requests }) hrequests

theorem calm_retire (bridge : Bridge) (place : Nat) (request : Request) :
    (bridge.retire place request).calm = bridge.calm.retire place request.calm := by
  have hcomplete := calm_modifyRequest bridge place Request.complete fun _ => rfl
  exact congrArg (fun after : Bridge =>
    { after with registry := bridge.registry.release request.sequence }) hcomplete

theorem calm_ended (bridge : Bridge) (place : Nat) (request : Request) (outcome : Outcome)
    (halts : Bool) :
    (bridge.ended place request outcome halts).calm =
      bridge.calm.ended place request.calm outcome halts := by
  unfold ended
  rw [← calm_retire]
  rfl

theorem create_calm (bridge : Bridge) (command : Command) (session : Session) :
    bridge.calm.create command session.calm =
      (bridge.create command session).map (Prod.map id calm) := by
  rw [create, create, length_requests_calm, Option.map_map]
  show Option.map _ (bridge.registry.allocate? _) = _
  congr 1
  funext allocated
  obtain ⟨n, registry⟩ := allocated
  simp [calm, Request.calm]

/-- Whether a command goes out has nothing to do with what callbacks do. -/
theorem attempt_calm (bridge : Bridge) (place : Nat) (request : Request) :
    bridge.calm.attempt place request.calm =
      ((bridge.attempt place request).1.calm, (bridge.attempt place request).2) := by
  have hrecorded : ∀ text, bridge.calm.recorded place text = (bridge.recorded place text).calm :=
    fun text => (calm_modifyRequest bridge place ({ · with wireText := some text })
      fun _ => rfl).symm
  cases hrender : bridge.dialect.render request.command with
  | error refusal =>
      have hcalm : bridge.calm.dialect.render request.calm.command = .error refusal := hrender
      rw [attempt_of_refused hrender, attempt_of_refused hcalm]
  | ok text? =>
      cases text? with
      | none =>
          have hcalm : bridge.calm.dialect.render request.calm.command = .ok none := hrender
          rw [attempt_of_wordless hrender, attempt_of_wordless hcalm]
      | some text =>
          have hcalm : bridge.calm.dialect.render request.calm.command = .ok (some text) := hrender
          have hdatagram : bridge.calm.link.send (bridge.calm.datagram request.calm text) =
              bridge.link.send (bridge.datagram request text) := rfl
          cases hlink : bridge.link.send (bridge.datagram request text) with
          | ok link =>
              rw [attempt_of_sent hrender hlink, attempt_of_sent hcalm (hdatagram.trans hlink),
                hrecorded]
              rfl
          | error error =>
              rw [attempt_of_unsent hrender hlink, attempt_of_unsent hcalm (hdatagram.trans hlink),
                hrecorded]

/-- The end of a request, with the commands that its session submits one from the outcome of the
other. -/
theorem conclude_calm (session : Session) (bridge : Bridge) (place : Nat) (request : Request)
    (outcome : Outcome) :
    (conclude session.calm bridge.calm place request.calm outcome).1 =
      (conclude session bridge place request outcome).1.calm := by
  induction session generalizing bridge place request outcome with
  | single conduct =>
      rw [Session.calm, conclude_single, conclude_single, calm_ended]
      rfl
  | chain conduct command next ih =>
      have hhalts : conduct.calm.halts = conduct.halts := rfl
      rw [Session.calm, conclude_chain, conclude_chain, hhalts, ← calm_ended, create_calm]
      cases (bridge.ended place request outcome conduct.halts).create command next with
      | none => rfl
      | some created =>
          -- Both make the same request next, and it goes out on both or ends on both.
          obtain ⟨place', created⟩ := created
          dsimp only [Option.map_some, Prod.map_apply, id_eq]
          rw [getElem?_requests_calm]
          cases created.requests[place']? with
          | none => rfl
          | some request' =>
              dsimp only [Option.map_some]
              rw [attempt_calm]
              rcases created.attempt place' request' with ⟨sent, _ | outcome'⟩
              · rfl
              · exact ih sent place' request' outcome'

theorem finish_calm (bridge : Bridge) (place : Nat) (outcome : Outcome) :
    (bridge.calm.finish place outcome).1 = (bridge.finish place outcome).1.calm := by
  rw [finish, finish, getElem?_requests_calm]
  cases bridge.requests[place]? with
  | none => rfl
  | some request =>
      dsimp only [Option.map_some]
      rw [Request.completed_calm, Request.session_calm]
      cases request.completed with
      | true => rfl
      | false =>
          rw [if_neg Bool.false_ne_true, if_neg Bool.false_ne_true]
          cases request.session with
          | some session => exact conclude_calm session bridge place request outcome
          | none => exact (calm_retire bridge place request).symm

theorem send_calm (bridge : Bridge) (place : Nat) :
    (bridge.calm.send place).1 = (bridge.send place).1.calm := by
  rw [send, send, getElem?_requests_calm]
  cases bridge.requests[place]? with
  | none => rfl
  | some request =>
      dsimp only [Option.map_some]
      rw [attempt_calm]
      rcases bridge.attempt place request with ⟨sent, _ | outcome⟩
      · rfl
      · exact finish_calm sent place outcome

/-- A keep-alive is relayed to a calm session as to any other, and a calm session completes the same
request from its callback. -/
theorem relay_calm (bridge : Bridge) (place : Nat) (request : Request) (session : Session)
    (time : Span) :
    (bridge.calm.relay place request.calm session.calm time).1 =
      (bridge.relay place request session time).1.calm := by
  have hnotified : bridge.calm.notified place request.calm time =
      (bridge.notified place request time).calm := by
    unfold notified
    rw [Request.keepAlives_calm, ← calm_modifyRequest]
    · rfl
    · exact fun _ => rfl
  have hconclusion : session.calm.conduct.conclusion = session.conduct.conclusion := by
    rw [Session.conduct_calm]
    rfl
  cases halone : session.conduct.conclusion with
  | none =>
      rw [relay_of_alone halone, relay_of_alone (hconclusion.trans halone)]
      exact hnotified
  | some text =>
      cases howner : bridge.registry.lookup request.sequence with
      | none =>
          have hcalm : bridge.calm.registry.lookup request.calm.sequence = none := howner
          rw [relay_of_gone halone howner, relay_of_gone (hconclusion.trans halone) hcalm]
          exact hnotified
      | some owner =>
          have hcalm : bridge.calm.registry.lookup request.calm.sequence = some owner := howner
          rw [relay_of_owner halone howner, relay_of_owner (hconclusion.trans halone) hcalm,
            hnotified]
          exact finish_calm _ owner _

theorem keepAlive_calm (bridge : Bridge) (place : Nat) (request : Request) (text : String) :
    (bridge.calm.keepAlive place request.calm text).1 =
      (bridge.keepAlive place request text).1.calm := by
  have hhear := calm_modifyRequest bridge place (·.hear text) fun _ => rfl
  have hestimate : (request.hear text).calm.estimate = (request.hear text).estimate := rfl
  rw [keepAlive, keepAlive, ← hhear, Request.hear_calm, hestimate]
  cases (request.hear text).estimate.stretch? with
  | none => rfl
  | some time =>
      rw [relayWithin, relayWithin, Request.session_calm]
      cases (request.hear text).session with
      | none => rfl
      | some session => exact relay_calm _ place (request.hear text) session time

/-- **Events** do the same to a calm bridge. -/
theorem complete_calm (bridge : Bridge) (place : Nat) (event : Event) :
    (bridge.calm.complete place event).1 = (bridge.complete place event).1.calm := by
  have hcalm := getElem?_requests_calm bridge place
  cases hrequest : bridge.requests[place]? with
  | none =>
      rw [hrequest] at hcalm
      rw [complete_of_none hrequest, complete_of_none hcalm]
  | some request =>
      rw [hrequest] at hcalm
      cases hopen : request.completed with
      | true => rw [complete_of_completed hrequest hopen, complete_of_completed hcalm hopen]
      | false =>
          cases hterminal : event.isTerminal with
          | true =>
              rw [complete_of_terminal hrequest hopen hterminal,
                complete_of_terminal hcalm hopen hterminal]
              exact finish_calm bridge place _
          | false =>
              rw [complete_of_keepAlive hrequest hopen hterminal,
                complete_of_keepAlive hcalm hopen hterminal]
              exact keepAlive_calm bridge place request event.text

theorem dispatch_calm (bridge : Bridge) (message : Message) :
    (bridge.calm.dispatch message).1 = (bridge.dispatch message).1.calm ∧
      (Report.dispatched (bridge.calm.dispatch message).2).calm =
        (Report.dispatched (bridge.dispatch message).2).calm := by
  cases hevent : Event.ofMessage? message with
  | none =>
      rw [dispatch_of_no_event hevent, dispatch_of_no_event hevent]
      exact ⟨rfl, rfl⟩
  | some event =>
      cases howner : bridge.registry.lookup message.sequence with
      | none =>
          have hcalm : bridge.calm.registry.lookup message.sequence = none := howner
          rw [dispatch_of_no_owner hevent howner, dispatch_of_no_owner hevent hcalm]
          exact ⟨rfl, rfl⟩
      | some place =>
          have hcalm : bridge.calm.registry.lookup message.sequence = some place := howner
          rw [dispatch_of_owner hevent howner, dispatch_of_owner hevent hcalm]
          refine ⟨complete_calm bridge place event, ?_⟩
          cases (bridge.complete place event).2 <;>
            cases (bridge.calm.complete place event).2 <;> rfl

/-- **Every step** does the same to a calm bridge, and reports the same but for failed callbacks. -/
theorem step_calm (bridge : Bridge) (step : Step) :
    (bridge.calm.step step.calm).1 = (bridge.step step).1.calm ∧
      (bridge.calm.step step.calm).2.calm = (bridge.step step).2.calm := by
  cases step with
  | create command session =>
      rw [Step.calm, Bridge.step, Bridge.step, create_calm]
      cases bridge.create command session with
      | none => exact ⟨rfl, rfl⟩
      | some created =>
          obtain ⟨place, created⟩ := created
          refine ⟨rfl, ?_⟩
          show Report.created (created.calm.sequenceAt place) =
            Report.created (created.sequenceAt place)
          rw [sequenceAt, sequenceAt, getElem?_requests_calm]
          cases created.requests[place]? <;> rfl
  | submit command session =>
      rw [Step.calm, Bridge.step, Bridge.step, submit, submit, create_calm]
      cases bridge.create command session with
      | none => exact ⟨rfl, rfl⟩
      | some created => exact ⟨send_calm created.2 created.1, rfl⟩
  | send place => exact ⟨send_calm bridge place, rfl⟩
  | complete place event => exact ⟨complete_calm bridge place event, rfl⟩
  | dispatch message => exact dispatch_calm bridge message
  | refuse on => exact ⟨rfl, rfl⟩
  | close => exact ⟨rfl, rfl⟩
  | setLink bound refusal => exact ⟨rfl, rfl⟩

/-- **Every history** leads a calm bridge to the calm copy of where it leads. -/
theorem run_calm (bridge : Bridge) (steps : List Step) :
    bridge.calm.run (steps.map Step.calm) = (bridge.run steps).calm := by
  induction steps generalizing bridge with
  | nil => rfl
  | cons step steps ih =>
      rw [List.map_cons, run_cons, run_cons, (step_calm bridge step).1]
      exact ih _

/-! ### Which operations fail -/

/-- A callback of the session at a place fails, when these callbacks are made. -/
def failsAt (bridge : Bridge) (place : Nat) (callbacks : List Callback) : Bool :=
  bridge.requests[place]?.any fun request =>
    request.session.any (·.fails request.keepAlives (callbacks.map (·.notice)))

theorem failsAt_eq {bridge : Bridge} {place : Nat} {request : Request} {session : Session}
    (hrequest : bridge.requests[place]? = some request) (hsession : request.session = some session)
    (callbacks : List Callback) :
    bridge.failsAt place callbacks =
      session.fails request.keepAlives (callbacks.map (·.notice)) := by
  rw [failsAt, hrequest, Option.any_some, hsession, Option.any_some]

theorem failsAt_nil (bridge : Bridge) (place : Nat) : bridge.failsAt place [] = false := by
  cases hrequest : bridge.requests[place]? <;> simp [failsAt, hrequest, Session.fails]

/-- What an operation on the request at a place comes to: it made some callbacks, and it failed
exactly if one of them did. -/
def FailsByCallback (bridge : Bridge) (place : Nat) (result : Bridge × Bool) : Prop :=
  ∃ callbacks, result.1.log = bridge.log ++ callbacks ∧
    result.2 = bridge.failsAt place callbacks

/-- To do nothing does not fail. -/
theorem FailsByCallback.idle (bridge : Bridge) (place : Nat) :
    bridge.FailsByCallback place (bridge, false) :=
  ⟨[], (List.append_nil _).symm, (failsAt_nil bridge place).symm⟩

/-- When a request is over, its caller can create another one: at least its own number is free. -/
theorem exists_create_of_ended {bridge : Bridge} (h : bridge.Agrees) {place : Nat}
    {request : Request} (hrequest : bridge.requests[place]? = some request)
    (hopen : request.completed = false) (outcome : Outcome) (halts : Bool) (command : Command)
    (session : Session) :
    ∃ place' created, (bridge.ended place request outcome halts).create command session =
      some (place', created) := by
  have hagrees := (ended_moves hrequest hopen outcome halts).agrees h
  have hfree : (bridge.ended place request outcome halts).registry.contains request.sequence =
      false := by
    show ((bridge.registry.release request.sequence).lookup request.sequence).isSome = false
    rw [Registry.lookup_release_self]
    rfl
  obtain ⟨n, hn⟩ := Registry.exists_nextFree?_of_free hagrees.sound.last
    (h.inRange place request hrequest) hfree
  exact ⟨_, _, create_eq_some_iff.mpr
    ⟨rfl, n, _, Registry.allocate?_eq_some_iff.mpr ⟨hn, rfl⟩, rfl⟩⟩

/-- **The end of a request** fails exactly if a callback that it made failed: that of its own
session, or that of the session of a command which was submitted and ended at once. -/
theorem conclude_fails (session : Session) {bridge : Bridge} (h : bridge.Agrees) {place : Nat}
    {request actual : Request} (hactual : bridge.requests[place]? = some actual)
    (hopen : actual.completed = false) (hsequence : request.sequence = actual.sequence)
    (hcommand : request.command = actual.command) (outcome : Outcome) (told : Nat) :
    ∃ callbacks, (conclude session bridge place request outcome).1.log = bridge.log ++ callbacks ∧
      (conclude session bridge place request outcome).2 =
        session.fails told (callbacks.map (·.notice)) := by
  induction session generalizing bridge place request actual outcome told with
  | single conduct =>
      rw [conclude_single]
      exact ⟨[_], rfl, rfl⟩
  | chain conduct command next ih =>
      -- The callback in which this session is told comes first, whatever follows from it.
      let lastCall := (bridge.retire place actual).callback place actual (.done outcome)
      obtain ⟨place', created, hcreate⟩ :=
        exists_create_of_ended h hactual hopen outcome conduct.halts command next
      have hended := (ended_moves hactual hopen outcome conduct.halts).agrees h
      obtain ⟨request', hrequest', hnew⟩ := create_request hcreate
      obtain ⟨-, hregister⟩ := create_move hcreate
      have hlog : created.log = bridge.log ++ [lastCall] := by
        obtain ⟨-, n, registry, -, rfl⟩ := create_eq_some_iff.mp hcreate
        rfl
      obtain ⟨actual', hactual', hsequence', hcommand', hcompleted', -⟩ :=
        attempt_request hrequest' request'
      have hsent := (attempt_moves created place' request').agrees (hregister.agrees hended)
      have hsentLog := (attempt_log created place' request').trans hlog
      rw [conclude_chain, ended_congr bridge place hsequence hcommand, hcreate]
      dsimp only
      rw [hrequest']
      dsimp only
      rcases hattempt : created.attempt place' request' with ⟨sent, _ | outcome'⟩
      · rw [hattempt] at hsentLog
        exact ⟨_, hsentLog, (Bool.or_false _).symm⟩
      · -- It did not reach the wire, so its own end is told within this callback.
        rw [hattempt] at hsent hactual' hsentLog
        obtain ⟨callbacks, hcallbacks, hfails⟩ := ih hsent hactual' (hcompleted'.trans hnew)
          hsequence'.symm hcommand'.symm outcome' 0
        refine ⟨lastCall :: callbacks, ?_, ?_⟩
        · rw [List.append_cons, ← hsentLog]
          exact hcallbacks
        · dsimp only at hfails ⊢
          rw [hfails, Bool.or_comm]
          rfl

theorem finish_fails {bridge : Bridge} (h : bridge.Agrees) (place : Nat) (outcome : Outcome) :
    bridge.FailsByCallback place (bridge.finish place outcome) := by
  cases hrequest : bridge.requests[place]? with
  | none =>
      rw [finish_of_none hrequest]
      exact .idle bridge place
  | some request =>
      cases hopen : request.completed with
      | true =>
          rw [finish_of_completed hrequest hopen]
          exact .idle bridge place
      | false =>
          obtain ⟨session, hsession⟩ := h.session_of_open hrequest hopen
          rw [finish_of_open hrequest hopen hsession]
          obtain ⟨callbacks, hlog, hfails⟩ :=
            conclude_fails session h hrequest hopen rfl rfl outcome request.keepAlives
          exact ⟨callbacks, hlog, hfails.trans (failsAt_eq hrequest hsession _).symm⟩

/-- The relay of a keep-alive fails if its own callback failed or that of the outcome which a
session told from within it. -/
theorem relay_fails {bridge : Bridge} (h : bridge.Agrees) {place : Nat} {request : Request}
    {session : Session} (hrequest : bridge.requests[place]? = some request)
    (hopen : request.completed = false) (hsession : request.session = some session) (time : Span) :
    bridge.FailsByCallback place (bridge.relay place request session time) := by
  have hcall := fun callbacks => failsAt_eq hrequest hsession
    (bridge.callback place request (.keepAlive time) :: callbacks)
  cases hconclusion : session.conduct.conclusion with
  | none =>
      rw [relay_of_alone hconclusion]
      exact ⟨_, rfl, ((hcall []).trans (Bool.or_false _)).symm⟩
  | some text =>
      rw [relay_of_owner hconclusion (h.lookup hrequest hopen)]
      have hself := requests_notified_self bridge hrequest time
      have hagrees := (notified_move hrequest hopen time).agrees h
      obtain ⟨callbacks, hlog, hfails⟩ := finish_fails hagrees place
        ((bridge.notified place request time).dialect.reply text)
      refine ⟨bridge.callback place request (.keepAlive time) :: callbacks, ?_, ?_⟩
      · rw [List.append_cons]
        exact hlog
      · rw [answer, hcall]
        dsimp only
        rw [hfails, failsAt_eq hself hsession, Bool.or_comm]
        rfl

theorem keepAlive_fails {bridge : Bridge} (h : bridge.Agrees) (htellable : bridge.Tellable)
    {place : Nat} {request : Request} (hrequest : bridge.requests[place]? = some request)
    (hopen : request.completed = false) (text : String) :
    bridge.FailsByCallback place (bridge.keepAlive place request text) := by
  obtain ⟨session, hsession⟩ := h.session_of_open hrequest hopen
  obtain ⟨time, htime⟩ :=
    Span.exists_stretch? (tellable_hear (htellable place request hrequest) text)
  have hsession' : (request.hear text).session = some session := hsession
  have hself := requests_modifyRequest_self bridge hrequest (·.hear text)
  have hhear : Move place bridge _ := .hear hrequest hopen text
  obtain ⟨callbacks, hlog, hfails⟩ := relay_fails (hhear.agrees h) hself hopen hsession' time
  rw [keepAlive, htime, relayWithin, hsession']
  refine ⟨callbacks, hlog, hfails.trans ?_⟩
  rw [failsAt_eq hself hsession', failsAt_eq hrequest hsession]
  rfl

/-- **Events** fail exactly if a callback that was made for them failed. -/
theorem complete_fails {bridge : Bridge} (h : bridge.Agrees) (htellable : bridge.Tellable)
    (place : Nat) (event : Event) :
    bridge.FailsByCallback place (bridge.complete place event) := by
  cases hrequest : bridge.requests[place]? with
  | none =>
      rw [complete_of_none hrequest]
      exact .idle bridge place
  | some request =>
      cases hopen : request.completed with
      | true =>
          rw [complete_of_completed hrequest hopen]
          exact .idle bridge place
      | false =>
          -- Only an event for an open request makes callbacks, and which they are depends on its
          -- class.
          cases hterminal : event.isTerminal with
          | true =>
              rw [complete_of_terminal hrequest hopen hterminal]
              exact finish_fails h place _
          | false =>
              rw [complete_of_keepAlive hrequest hopen hterminal]
              exact keepAlive_fails h htellable hrequest hopen event.text

/-- **A message** counts as faulted exactly if a callback that was made for it failed. -/
theorem dispatch_fails {bridge : Bridge} (h : bridge.Agrees) (htellable : bridge.Tellable)
    (message : Message) :
    ∃ callbacks, (bridge.dispatch message).1.log = bridge.log ++ callbacks ∧
      ((bridge.dispatch message).2 = .faulted ↔
        ∃ place, bridge.registry.lookup message.sequence = some place ∧
          bridge.failsAt place callbacks = true) := by
  cases hevent : Event.ofMessage? message with
  | none =>
      rw [dispatch_of_no_event hevent]
      exact ⟨[], (List.append_nil _).symm, by simp [failsAt_nil]⟩
  | some event =>
      cases howner : bridge.registry.lookup message.sequence with
      | none =>
          rw [dispatch_of_no_owner hevent howner]
          exact ⟨[], (List.append_nil _).symm, by simp⟩
      | some place =>
          rw [dispatch_of_owner hevent howner]
          obtain ⟨callbacks, hlog, hfails⟩ := complete_fails h htellable place event
          refine ⟨callbacks, hlog, ?_⟩
          rw [hfails]
          cases hfailed : bridge.failsAt place callbacks <;> simp [hfailed]

/-! ### Histories -/

/-- What is seen of the requests does not depend on whose callbacks fail. -/
theorem outline_calm (bridge : Bridge) :
    bridge.calm.requests.map Request.outline = bridge.requests.map Request.outline := by
  rw [calm, List.map_map]
  rfl

/-- Nor does what a step reports, failed callbacks apart. -/
theorem report_congr {bridge bridge' : Bridge} (hcalm : bridge.calm = bridge'.calm)
    {step step' : Step} (hstep : step.calm = step'.calm) :
    (bridge.step step).2.calm = (bridge'.step step').2.calm := by
  rw [← (step_calm bridge step).2, ← (step_calm bridge' step').2, hcalm, hstep]

/-- **Failing callbacks are contained.** Two histories that differ only in which callbacks fail
lead, after every step, to the same registry, the same requests as seen from outside, the same link
with the same datagrams, and the same callbacks; and their steps report the same, but for whether a
callback failed. A message counts as faulted exactly if one of the callbacks that were made for it
failed, and an event that is applied directly fails on the same condition. -/
theorem run_contains_failures (dialect : Dialect) (settings : Settings) (link : Link)
    {steps steps' : List Step} (hsame : steps.map Step.calm = steps'.map Step.calm) :
    (∀ count,
      let bridge := (Bridge.new dialect settings link).run (steps.take count)
      let bridge' := (Bridge.new dialect settings link).run (steps'.take count)
      bridge.registry = bridge'.registry ∧
      bridge.requests.map Request.outline = bridge'.requests.map Request.outline ∧
      bridge.link = bridge'.link ∧ bridge.log = bridge'.log ∧
      ∀ step step', steps[count]? = some step → steps'[count]? = some step' →
        (bridge.step step).2.calm = (bridge'.step step').2.calm) ∧
    let bridge := (Bridge.new dialect settings link).run steps
    (∀ message, ∃ callbacks, (bridge.dispatch message).1.log = bridge.log ++ callbacks ∧
      ((bridge.dispatch message).2 = .faulted ↔
        ∃ place, bridge.registry.lookup message.sequence = some place ∧
          bridge.failsAt place callbacks = true)) ∧
    ∀ place event, ∃ callbacks, (bridge.complete place event).1.log = bridge.log ++ callbacks ∧
      (bridge.complete place event).2 = bridge.failsAt place callbacks := by
  refine ⟨?_, ?_⟩
  · intro count bridge bridge'
    -- Both histories have the same calm copy, and all that is compared is read off it.
    have hcalm : bridge.calm = bridge'.calm := by
      rw [← run_calm, ← run_calm, List.map_take, List.map_take, hsame]
    refine ⟨?_, ?_, ?_, ?_, ?_⟩
    · show bridge.calm.registry = bridge'.calm.registry
      rw [hcalm]
    · rw [← outline_calm bridge, hcalm, outline_calm]
    · show bridge.calm.link = bridge'.calm.link
      rw [hcalm]
    · show bridge.calm.log = bridge'.calm.log
      rw [hcalm]
    · intro step step' hstep hstep'
      have hcount := congrArg (·[count]?) hsame
      simp only [List.getElem?_map, hstep, hstep', Option.map_some] at hcount
      exact report_congr hcalm (Option.some.inj hcount)
  · intro bridge
    have h : bridge.Agrees := run_agrees dialect settings link steps
    have htellable : bridge.Tellable := run_tellable dialect settings link steps
    exact ⟨dispatch_fails h htellable, complete_fails h htellable⟩

/-- A caller whose every callback fails, and one whose callbacks do not: the same is told, and only
the report of the keep-alive differs. -/
theorem run_contains_failures_keepAlive :
    let ack : Message := ⟨1, 17, 3, 1, 1, "5000"⟩
    let conduct : Conduct := { failsKeepAlive := fun _ => true, failsDone := true }
    let failing := (Bridge.new .tcs {} {}).run [.create .stop (.single conduct), .dispatch ack]
    let calm := (Bridge.new .tcs {} {}).run [.create .stop (.single {}), .dispatch ack]
    failing.log = calm.log ∧ failing.log.length = 1 ∧
      (((Bridge.new .tcs {} {}).run [.create .stop (.single conduct)]).dispatch ack).2 = .faulted ∧
      (((Bridge.new .tcs {} {}).run [.create .stop (.single {})]).dispatch ack).2 = .delivered := by
  intro ack conduct failing calm
  have hsame : [Step.create .stop (.single conduct), .dispatch ack].map Step.calm =
      [Step.create .stop (.single {}), .dispatch ack].map Step.calm := rfl
  obtain ⟨hhistory, -⟩ := run_contains_failures .tcs {} {} hsame
  obtain ⟨-, -, -, hlog, -⟩ := hhistory 2
  exact ⟨hlog, by decide +kernel, by decide +kernel, by decide +kernel⟩

end Bridge

end TelescopeLink
