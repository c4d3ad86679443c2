import TelescopeLink.Proofs.Bridge.Operations
import TelescopeLink.Proofs.Span

/-!
# What a caller hears of a stream of messages

Messages arrive for any requests or for none, in any order and number. What the caller of one open
request is told of them depends on the events under its own number only: one keep-alive for each, up
to the first that ends the request, and then the outcome (`Attended.run_tells`).

The proof follows the stream. A message that is no event for the request leaves it and what it was
told alone (`Attended.dispatch_other`), since the number of an open request is its own; a keep-alive
leaves it open, with the estimate that it heard (`Attended.dispatch_keepAlive`); the event that ends
it is the last it is told of (`Attended.dispatch_terminal`). Keep-alives never fail on their own, as
every estimate that can be told can be stretched (`run_tellable`).

As long as no session submits anything, messages make no requests (`Quiet.run_moves`), so nobody
gets the number of a request that is over.
-/

namespace TelescopeLink

/-! ### Events for one request -/

/-- The event that a message is for the requests with a number. -/
def eventFor? (n : Int32) (message : Message) : Option Event :=
  if message.sequence = n then Event.ofMessage? message else none

/-- The texts of the keep-alives before the first event that ends a request. -/
def keepAliveTexts (events : List Event) : List String :=
  (events.takeWhile (!·.isTerminal)).map Event.text

/-- The estimates that are heard one after another in keep-alives. -/
def estimates (estimate : Span) : List String → List Span
  | [] => []
  | text :: rest =>
    let heard := (Request.reportedEstimate? text).getD estimate
    heard :: estimates heard rest

/-- The callback by which the caller of a request is told something while its number is in use, or
afterwards. -/
def Request.told (request : Request) (place : Nat) (registered : Bool) (notice : Notice) :
    Callback :=
  { request := place
    sequence := request.sequence
    typeName := request.command.typeName
    notice
    registered }

/-- Callbacks name number and command of their request, and nothing else of it. -/
theorem Request.told_congr {request other : Request} (hsequence : other.sequence = request.sequence)
    (hcommand : other.command = request.command) (place : Nat) (registered : Bool)
    (notice : Notice) :
    other.told place registered notice = request.told place registered notice := by
  rw [told, told, hsequence, hcommand]

/-- A caller that leaves the bridge alone while its request is open, and whose callbacks do not
fail. -/
structure Session.Steady (session : Session) : Prop where
  alone : session.conduct.conclusion = none
  keepAlives : ∀ count, session.conduct.failsKeepAlive count = false
  done : session.conduct.failsDone = false

theorem Event.ofMessage?_eq_none_iff {message : Message} :
    Event.ofMessage? message = none ↔
      message.class? = none ∨ message.class? = some .command := by
  rw [Event.ofMessage?]
  cases message.class? with
  | none => simp
  | some cls => cases cls <;> simp [Event.ofClass?]

theorem eventFor?_eq_some_iff {n : Int32} {message : Message} {event : Event} :
    eventFor? n message = some event ↔
      message.sequence = n ∧ Event.ofMessage? message = some event := by
  unfold eventFor?
  split
  · simp [*]
  · simp [*]

/-! ### Estimates -/

theorem tellable_hear {request : Request} (h : request.estimate.Tellable) (text : String) :
    (request.hear text).estimate.Tellable := by
  show ((Request.reportedEstimate? text).getD request.estimate).Tellable
  cases hreported : Request.reportedEstimate? text with
  | none => exact h
  | some estimate =>
      unfold Request.reportedEstimate? at hreported
      obtain ⟨word, -, hword⟩ := Option.bind_eq_some_iff.mp hreported
      obtain ⟨millis, -, rfl⟩ := Option.map_eq_some_iff.mp hword
      exact Span.tellable_ofMillis millis

namespace Bridge

/-- All estimates can be told in 64 bits of milliseconds. -/
def Tellable (bridge : Bridge) : Prop :=
  ∀ (place : Nat) (request : Request), bridge.requests[place]? = some request →
    request.estimate.Tellable

theorem Tellable.modifyRequest {bridge : Bridge} (h : bridge.Tellable) (place : Nat)
    {change : Request → Request}
    (hchange : ∀ request : Request, request.estimate.Tellable →
      (change request).estimate.Tellable) :
    (bridge.modifyRequest place change).Tellable := by
  intro q request' hrequest'
  obtain ⟨request, hrequest, rfl⟩ :=
    (requests_modifyRequest_eq_some_iff bridge place change).mp hrequest'
  split
  · exact hchange request (h q request hrequest)
  · exact h q request hrequest

theorem Move.tellable {place : Nat} {bridge after : Bridge} (hmove : Move place bridge after)
    (h : bridge.Tellable) : after.Tellable := by
  cases hmove with
  | register command session halloc =>
      intro q request hrequest
      rcases requests_concat_eq_some_iff.mp hrequest with hrequest | ⟨-, rfl⟩
      · exact h q request hrequest
      · exact Span.tellable_ofMillis _
  | record text => exact h.modifyRequest _ fun _ => id
  | hear hrequest hopen text => exact h.modifyRequest _ fun _ htellable => tellable_hear htellable _
  | relay hrequest hopen timeToComplete => exact h.modifyRequest _ fun _ => id
  | retire hrequest hopen outcome => exact h.modifyRequest _ fun _ => id
  | surroundings link running => exact h

theorem run_tellable (dialect : Dialect) (settings : Settings) (link : Link) (steps : List Step) :
    ((Bridge.new dialect settings link).run steps).Tellable := by
  have hnew : (Bridge.new dialect settings link).Tellable := by
    intro place request hrequest
    simp [Bridge.new] at hrequest
  exact (run_moves (.new dialect settings link) steps).induction
    (fun _ _ _ hmove _ => hmove.tellable) hnew

/-! ### One message -/

/-- Messages that are no event for anyone are ignored, and no others. -/
theorem dispatch_eq_ignored_iff (bridge : Bridge) (message : Message) :
    (bridge.dispatch message).2 = .ignored ↔ Event.ofMessage? message = none := by
  cases hevent : Event.ofMessage? message with
  | none => simp [dispatch_of_no_event hevent]
  | some event =>
      cases howner : bridge.registry.lookup message.sequence with
      | none => simp [dispatch_of_no_owner hevent howner]
      | some place =>
          rw [dispatch_of_owner hevent howner]
          cases (bridge.complete place event).2 <;> simp

/-- The bridge after a caller was told a keep-alive and did nothing. -/
def heard (bridge : Bridge) (place : Nat) (request : Request) (text : String) (time : Span) :
    Bridge :=
  ((bridge.modifyRequest place (·.hear text)).modifyRequest place
    ({ · with keepAlives := request.keepAlives + 1 })).tell place (request.hear text)
      (.keepAlive time)

theorem keepAlive_eq {bridge : Bridge} {place : Nat} {request : Request} {session : Session}
    {text : String} {time : Span} (hsession : request.session = some session)
    (hsteady : session.Steady) (htime : (request.hear text).estimate.stretch? = some time) :
    bridge.keepAlive place request text = (bridge.heard place request text time, false) := by
  have hsession' : (request.hear text).session = some session := hsession
  rw [keepAlive, htime, relayWithin, hsession']
  dsimp only
  rw [relay_of_alone hsteady.alone, hsteady.keepAlives]
  rfl

/-- What the caller is told at the end, when its number is free again. -/
theorem toldTo_ended (bridge : Bridge) (place : Nat) (request : Request) (outcome : Outcome)
    (halts : Bool) :
    (bridge.ended place request outcome halts).toldTo place =
      bridge.toldTo place ++ [request.told place false (.done outcome)] := by
  show ((bridge.retire place request).tell place request (.done outcome)).toldTo place = _
  rw [toldTo_tell, if_pos rfl, toldTo_retire, callback]
  show bridge.toldTo place ++ [⟨_, _, _, _,
    ((bridge.registry.release request.sequence).lookup request.sequence).isSome⟩] = _
  rw [Registry.lookup_release_self]
  rfl

/-- What the caller is told of a keep-alive, while its number is in use. -/
theorem toldTo_notified {bridge : Bridge} (h : bridge.Agrees) {place : Nat} {request : Request}
    (hrequest : bridge.requests[place]? = some request) (hopen : request.completed = false)
    (time : Span) :
    (bridge.notified place request time).toldTo place =
      bridge.toldTo place ++ [request.told place true (.keepAlive time)] := by
  have hregistered : bridge.registry.contains request.sequence = true := by
    rw [Registry.contains, h.lookup hrequest hopen]
    rfl
  rw [notified, toldTo_tell, if_pos rfl, toldTo_modifyRequest, callback]
  show bridge.toldTo place ++ [⟨_, _, _, _, bridge.registry.contains request.sequence⟩] = _
  rw [hregistered]
  rfl

/-- The request at a place is open, and this is its session. -/
structure Attended (bridge : Bridge) (place : Nat) (request : Request) (session : Session) :
    Prop where
  agrees : bridge.Agrees
  here : bridge.requests[place]? = some request
  opened : request.completed = false
  held : request.session = some session
  estimate : request.estimate.Tellable

namespace Attended

variable {bridge : Bridge} {place : Nat} {request : Request} {session : Session} {message : Message}
  (h : bridge.Attended place request session)
include h

/-- **Other messages** do nothing to the request, and nothing is told of them. -/
theorem dispatch_other (hevent : eventFor? request.sequence message = none) :
    (bridge.dispatch message).1.Attended place request session ∧
      (bridge.dispatch message).1.toldTo place = bridge.toldTo place := by
  have hmoves := dispatch_moves h.agrees message
  have hplace : ¬bridge.DispatchReach message place := by
    intro hreach
    obtain ⟨event, owner, hmessage, howner, hreach⟩ := hreach
    -- The owner can only be the request itself, but then the message is an event for it.
    have hlt := (List.getElem?_eq_some_iff.mp h.here).1
    obtain rfl : place = owner := by
      unfold Reach at hreach
      omega
    obtain ⟨request', hrequest', -, hsequence⟩ := (h.agrees.owner_iff _ _).mp howner
    rw [h.here] at hrequest'
    obtain rfl := Option.some.inj hrequest'
    rw [eventFor?_eq_some_iff.mpr ⟨hsequence.symm, hmessage⟩] at hevent
    exact absurd hevent (by simp)
  exact ⟨⟨hmoves.agrees h.agrees, (hmoves.request_of_not_touched hplace).trans h.here,
    h.opened, h.held, h.estimate⟩, hmoves.toldTo_of_not_touched hplace⟩

/-- An event for the request is led to it. -/
theorem dispatch_eq {event : Event} (hevent : eventFor? request.sequence message = some event) :
    bridge.dispatch message =
      ((bridge.complete place event).1,
        if (bridge.complete place event).2 then .faulted else .delivered) := by
  obtain ⟨hsequence, hmessage⟩ := eventFor?_eq_some_iff.mp hevent
  exact dispatch_of_owner hmessage (hsequence ▸ h.agrees.lookup h.here h.opened)

/-- A keep-alive is told: its time is one that can be stretched. -/
theorem complete_keepAlive (hsteady : session.Steady) {event : Event}
    (hkeep : event.isTerminal = false) :
    ∃ time, (request.hear event.text).estimate.stretch? = some time ∧
      bridge.complete place event = (bridge.heard place request event.text time, false) := by
  obtain ⟨time, htime⟩ := Span.exists_stretch? (tellable_hear h.estimate event.text)
  refine ⟨time, htime, ?_⟩
  rw [complete_of_keepAlive h.here h.opened hkeep]
  exact keepAlive_eq h.held hsteady htime

/-- An event that ends the request concludes it, with the outcome that it tells. -/
theorem complete_terminal {event : Event} (hterminal : event.isTerminal = true) :
    bridge.complete place event =
      conclude session bridge place request (bridge.dialect.verdict event) := by
  rw [complete_of_terminal h.here h.opened hterminal]
  exact finish_of_open h.here h.opened h.held _

theorem toldTo_heard (text : String) (time : Span) :
    (bridge.heard place request text time).toldTo place =
      bridge.toldTo place ++ [request.told place true (.keepAlive time)] := by
  have hhear : Move place bridge _ := .hear h.here h.opened text
  have hself := requests_modifyRequest_self bridge h.here (·.hear text)
  exact toldTo_notified (hhear.agrees h.agrees) hself h.opened time

/-- **A keep-alive** is told, with what it says of the time, and the request stays open. -/
theorem dispatch_keepAlive (hsteady : session.Steady) {event : Event}
    (hevent : eventFor? request.sequence message = some event)
    (hkeep : event.isTerminal = false) :
    ∃ time request',
      ((Request.reportedEstimate? event.text).getD request.estimate).stretch? = some time ∧
      (bridge.dispatch message).2 = .delivered ∧
      (bridge.dispatch message).1.Attended place request' session ∧
      request'.sequence = request.sequence ∧ request'.command = request.command ∧
      request'.estimate = (Request.reportedEstimate? event.text).getD request.estimate ∧
      (bridge.dispatch message).1.toldTo place =
        bridge.toldTo place ++ [request.told place true (.keepAlive time)] := by
  obtain ⟨time, htime, hcomplete⟩ := h.complete_keepAlive hsteady hkeep
  have hagrees := (dispatch_moves h.agrees message).agrees h.agrees
  have hdispatch := h.dispatch_eq hevent
  rw [hcomplete] at hdispatch
  rw [hdispatch] at hagrees ⊢
  have hhear := requests_modifyRequest_self bridge h.here (·.hear event.text)
  have hcounted := requests_modifyRequest_self _ hhear
    ({ · with keepAlives := request.keepAlives + 1 })
  exact ⟨time, { request.hear event.text with keepAlives := request.keepAlives + 1 }, htime, rfl,
    ⟨hagrees, hcounted, h.opened, h.held, tellable_hear h.estimate event.text⟩, rfl, rfl, rfl,
    h.toldTo_heard event.text time⟩

/-- The event that ends the request is told as its outcome, and that is the end of it. -/
theorem complete_tells {event : Event} (hterminal : event.isTerminal = true) :
    (∃ request', (bridge.complete place event).1.requests[place]? = some request' ∧
      request'.completed = true) ∧
    (bridge.complete place event).1.toldTo place =
      bridge.toldTo place ++ [request.told place false (.done (bridge.dialect.verdict event))] := by
  rw [h.complete_terminal hterminal]
  generalize bridge.dialect.verdict event = outcome
  have hrest := conclude_rest session h.here h.opened rfl rfl outcome
  have hended : (bridge.ended place request outcome session.conduct.halts).requests[place]? =
      some request.complete := requests_modifyRequest_self bridge h.here Request.complete
  obtain ⟨request', hrequest', hprogress⟩ := hrest.progress hended
  exact ⟨⟨request', hrequest', hprogress.completed rfl⟩,
    (hrest.toldTo_of_completed hended rfl).trans (toldTo_ended ..)⟩

/-- **The event that ends the request** is told as its outcome. -/
theorem dispatch_terminal {event : Event}
    (hevent : eventFor? request.sequence message = some event)
    (hterminal : event.isTerminal = true) :
    (∃ request', (bridge.dispatch message).1.requests[place]? = some request' ∧
      request'.completed = true) ∧
    (bridge.dispatch message).1.toldTo place =
      bridge.toldTo place ++ [request.told place false (.done (bridge.dialect.verdict event))] ∧
    (session.submits = false → session.conduct.failsDone = false →
      (bridge.dispatch message).2 = .delivered) := by
  obtain ⟨hover, htold⟩ := h.complete_tells hterminal
  rw [h.dispatch_eq hevent]
  refine ⟨hover, htold, fun hsingle hdone => ?_⟩
  rw [h.complete_terminal hterminal]
  cases session with
  | single conduct => rw [conclude_single, if_neg (by simpa [Session.conduct] using hdone)]
  | chain conduct command next => exact absurd hsingle (by simp [Session.submits])

end Attended

/-- An open request is attended, on every bridge that a run can lead to. -/
theorem exists_attended (dialect : Dialect) (settings : Settings) (link : Link) (steps : List Step)
    {place : Nat} {request : Request}
    (hrequest : ((Bridge.new dialect settings link).run steps).requests[place]? = some request)
    (hopen : request.completed = false) :
    ∃ session, ((Bridge.new dialect settings link).run steps).Attended place request session := by
  have hagrees := run_agrees dialect settings link steps
  obtain ⟨session, hsession⟩ := hagrees.session_of_open hrequest hopen
  exact ⟨session, hagrees, hrequest, hopen, hsession,
    run_tellable dialect settings link steps place request hrequest⟩

/-! ### Streams -/

theorem run_dispatch_cons (bridge : Bridge) (message : Message) (messages : List Message) :
    bridge.run ((message :: messages).map .dispatch) =
      (bridge.dispatch message).1.run (messages.map .dispatch) := rfl

/-- **What the caller of an open request is told of a stream of messages.** -/
theorem Attended.run_tells {bridge : Bridge} {place : Nat} {request : Request} {session : Session}
    (h : bridge.Attended place request session) (hsteady : session.Steady)
    (messages : List Message) :
    ∃ times : List Span,
      times.map some = (estimates request.estimate
        (keepAliveTexts (messages.filterMap (eventFor? request.sequence)))).map Span.stretch? ∧
      (bridge.run (messages.map .dispatch)).toldTo place =
        bridge.toldTo place ++
          (times.map fun time => request.told place true (.keepAlive time)) ++
          ((messages.filterMap (eventFor? request.sequence)).find? Event.isTerminal).toList.map
            fun event => request.told place false (.done (bridge.dialect.verdict event)) := by
  -- Message by message. The invariant is that the request is attended to, and once that is lost the
  -- request is over.
  induction messages generalizing bridge request with
  | nil => exact ⟨[], by simp [keepAliveTexts, estimates], by simp⟩
  | cons message messages ih =>
      rw [run_dispatch_cons]
      have hdialect : ∀ event, (bridge.dispatch message).1.dialect.verdict event =
          bridge.dialect.verdict event := by
        intro event
        rw [(dispatch_moves h.agrees message).dialect_eq]
      cases hevent : eventFor? request.sequence message with
      | none =>
          rw [List.filterMap_cons_none hevent]
          obtain ⟨h', htold⟩ := h.dispatch_other hevent
          obtain ⟨times, htimes, hrun⟩ := ih h'
          refine ⟨times, htimes, ?_⟩
          rw [hrun, htold]
          simp only [hdialect]
      | some event =>
          rw [List.filterMap_cons_some hevent]
          cases hterminal : event.isTerminal with
          | true =>
              -- Nothing is told behind the outcome, whatever comes.
              obtain ⟨⟨request', hrequest', hcompleted'⟩, htold, -⟩ :=
                h.dispatch_terminal hevent hterminal
              have hagrees := (dispatch_moves h.agrees message).agrees h.agrees
              have hrest := (run_moves hagrees (messages.map .dispatch)).toldTo_of_completed
                hrequest' hcompleted'
              refine ⟨[], by simp [keepAliveTexts, estimates, hterminal], ?_⟩
              rw [hrest.trans htold, List.find?_cons_of_pos hterminal]
              simp
          | false =>
              -- A keep-alive is told first, and the stream goes on with the estimate that it
              -- brought.
              obtain ⟨time, request', htime, -, h', hsequence, hcommand, hestimate, htold⟩ :=
                h.dispatch_keepAlive hsteady hevent hterminal
              obtain ⟨times, htimes, hrun⟩ := ih h'
              have hsame := Request.told_congr hsequence hcommand place
              rw [hsequence, hestimate] at htimes
              rw [hsequence] at hrun
              refine ⟨time :: times, ?_, ?_⟩
              · unfold keepAliveTexts at htimes ⊢
                rw [List.takeWhile_cons_of_pos (by simp [hterminal]), List.map_cons, List.map_cons,
                  estimates, List.map_cons, htime, htimes]
              · rw [hrun, htold, List.find?_cons_of_neg (by simp [hterminal])]
                simp only [hsame, hdialect]
                simp

/-- After a stream, the request is over if an event that ends it was among the messages, and else it
is as open as before. -/
theorem Attended.run_attended {bridge : Bridge} {place : Nat} {request : Request}
    {session : Session} (h : bridge.Attended place request session) (hsteady : session.Steady)
    (messages : List Message) :
    if (messages.filterMap (eventFor? request.sequence)).any Event.isTerminal then
      ∃ request', (bridge.run (messages.map .dispatch)).requests[place]? = some request' ∧
        request'.completed = true
    else
      ∃ request', (bridge.run (messages.map .dispatch)).Attended place request' session ∧
        request'.sequence = request.sequence := by
  induction messages generalizing bridge request with
  | nil => exact ⟨request, h, rfl⟩
  | cons message messages ih =>
      rw [run_dispatch_cons]
      cases hevent : eventFor? request.sequence message with
      | none =>
          rw [List.filterMap_cons_none hevent]
          exact ih (h.dispatch_other hevent).1
      | some event =>
          rw [List.filterMap_cons_some hevent, List.any_cons]
          cases hterminal : event.isTerminal with
          | true =>
              obtain ⟨⟨request', hrequest', hcompleted'⟩, -, -⟩ :=
                h.dispatch_terminal hevent hterminal
              have hagrees := (dispatch_moves h.agrees message).agrees h.agrees
              obtain ⟨request'', hrequest'', hprogress⟩ :=
                (run_moves hagrees (messages.map .dispatch)).progress hrequest'
              exact ⟨request'', hrequest'', hprogress.completed hcompleted'⟩
          | false =>
              obtain ⟨time, request', -, -, h', hsequence, -, -, -⟩ :=
                h.dispatch_keepAlive hsteady hevent hterminal
              have hrest := ih h'
              rw [hsequence] at hrest
              exact hrest

/-! ### Streams that make no requests -/

/-- No session submits commands. -/
def Quiet (bridge : Bridge) : Prop :=
  ∀ place session, bridge.sessionAt place = some session → session.submits = false

namespace Quiet

/-- Whether a bridge is quiet can be checked on its requests. -/
theorem of_all {bridge : Bridge}
    (h : (bridge.requests.all fun request => request.session.all (!·.submits)) = true) :
    bridge.Quiet := by
  intro place session hsession
  obtain ⟨request, hrequest, hheld⟩ := Option.bind_eq_some_iff.mp hsession
  have hall := List.all_eq_true.mp h request (List.mem_of_getElem? hrequest)
  rw [hheld, Option.all_some] at hall
  simpa using hall

/-- Requests that are there get no new sessions. -/
theorem of_moves {touched : Nat → Prop} {bridge after : Bridge} (hquiet : bridge.Quiet)
    (hmoves : Moves touched bridge after)
    (htouched : ∀ q, touched q → q < bridge.requests.length) : after.Quiet := by
  intro q session hsession
  obtain ⟨request', hrequest', hheld⟩ := Option.bind_eq_some_iff.mp hsession
  obtain ⟨request, hrequest, hprogress⟩ := hmoves.exists_before htouched hrequest'
  rcases hprogress.session with hsame | hnone
  · exact hquiet q session ((sessionAt_eq hrequest).trans (hsame.symm.trans hheld))
  · rw [hnone] at hheld
    exact absurd hheld (by simp)

/-- An operation on a request has only that one in reach. -/
theorem eq_of_reach {bridge : Bridge} (hquiet : bridge.Quiet) {place q : Nat}
    (hq : Reach (bridge.sessionAt place) place bridge.requests.length q) : q = place := by
  rcases hq with heq | ⟨hsubmits, -⟩
  · exact heq
  · obtain ⟨session, hsession, hsubmits⟩ := (Option.any_eq_true _ _).mp hsubmits
    rw [hquiet place session hsession] at hsubmits
    exact absurd hsubmits Bool.false_ne_true

/-- A message touches the owner of its number only. -/
theorem eq_of_dispatchReach {bridge : Bridge} (hquiet : bridge.Quiet) {message : Message} {q : Nat}
    (hq : bridge.DispatchReach message q) :
    bridge.registry.lookup message.sequence = some q := by
  obtain ⟨event, place, -, howner, hreach⟩ := hq
  rw [hquiet.eq_of_reach hreach]
  exact howner

variable {bridge : Bridge} (hquiet : bridge.Quiet) (h : bridge.Agrees)
include hquiet h

/-- Messages are about requests that are there. -/
theorem lt_of_dispatchReach {message : Message} {q : Nat}
    (hq : bridge.DispatchReach message q) : q < bridge.requests.length := by
  obtain ⟨request, hrequest, -, -⟩ := (h.owner_iff _ _).mp (hquiet.eq_of_dispatchReach hq)
  exact (List.getElem?_eq_some_iff.mp hrequest).1

theorem dispatch (message : Message) : (bridge.dispatch message).1.Quiet :=
  hquiet.of_moves (dispatch_moves h message) fun _ => hquiet.lt_of_dispatchReach h

theorem run_moves (messages : List Message) :
    Moves (· < bridge.requests.length) bridge (bridge.run (messages.map .dispatch)) := by
  induction messages generalizing bridge with
  | nil => exact .refl bridge
  | cons message messages ih =>
      have hmoves := dispatch_moves h message
      have htouched : ∀ q, bridge.DispatchReach message q → q < bridge.requests.length :=
        fun _ => hquiet.lt_of_dispatchReach h
      have hrest := ih (hquiet.dispatch h message) (hmoves.agrees h)
      rw [hmoves.length_eq htouched] at hrest
      exact (hmoves.mono htouched).trans hrest

end Quiet

/-- **Where the events for the request go**: to it until one has ended it, and then to nobody. -/
theorem Attended.run_result {bridge : Bridge} {place : Nat} {request : Request} {session : Session}
    (h : bridge.Attended place request session) (hsteady : session.Steady) (hquiet : bridge.Quiet)
    (before : List Message) {message : Message} {event : Event}
    (hevent : eventFor? request.sequence message = some event) :
    ((bridge.run (before.map .dispatch)).dispatch message).2 =
      if (before.filterMap (eventFor? request.sequence)).any Event.isTerminal then .noRequest
      else .delivered := by
  have hbefore := h.run_attended hsteady before
  split at hbefore
  · rename_i hany
    obtain ⟨request', hrequest', hcompleted'⟩ := hbefore
    have hmoves := hquiet.run_moves h.agrees before
    obtain ⟨hsequence, hmessage⟩ := eventFor?_eq_some_iff.mp hevent
    -- Only the request itself could have its number, but it is over.
    have hnone : (bridge.run (before.map .dispatch)).registry.lookup message.sequence = none := by
      refine Option.eq_none_iff_forall_ne_some.mpr fun q hq => ?_
      have hplace := hmoves.lookup_of_lookup h.agrees (fun _ => id) hq
      rw [hsequence, h.agrees.lookup h.here h.opened] at hplace
      obtain rfl := Option.some.inj hplace
      obtain ⟨request'', hrequest'', hopen'', -⟩ := ((hmoves.agrees h.agrees).owner_iff _ _).mp hq
      obtain rfl := Option.some.inj (hrequest'.symm.trans hrequest'')
      exact absurd hopen'' (by simp [hcompleted'])
    rw [if_pos hany, dispatch_of_no_owner hmessage hnone]
  · rename_i hany
    obtain ⟨request', h', hsequence'⟩ := hbefore
    rw [if_neg hany]
    rw [← hsequence'] at hevent
    cases hterminal : event.isTerminal with
    | true =>
        have hsingle := hquiet place session ((sessionAt_eq h.here).trans h.held)
        exact (h'.dispatch_terminal hevent hterminal).2.2 hsingle hsteady.done
    | false =>
        obtain ⟨-, -, -, hdelivered, -⟩ := h'.dispatch_keepAlive hsteady hevent hterminal
        exact hdelivered

/-- **What a stream of messages does for one open request**, on every bridge that a run can lead to,
for a caller that leaves it alone and whose callbacks do not fail. The caller is told a keep-alive
for every message of that kind with its number, up to the first message that ends the request, with
the time that was heard last, stretched; and if there is such a message, its outcome as the end. A
message is ignored exactly if its class is unknown or that of commands. If no caller submits
anything in between, the messages for the request are delivered up to the one that ends it and find
no request afterwards, like those with numbers that nobody has. -/
theorem run_leads_stream (dialect : Dialect) (settings : Settings) (link : Link)
    (steps : List Step) {place : Nat} {request : Request} {session : Session}
    (hrequest : ((Bridge.new dialect settings link).run steps).requests[place]? = some request)
    (howner : ((Bridge.new dialect settings link).run steps).registry.lookup request.sequence =
      some place)
    (hsession : request.session = some session) (hsteady : session.Steady)
    (messages : List Message) :
    let bridge := (Bridge.new dialect settings link).run steps
    let events := messages.filterMap (eventFor? request.sequence)
    (∃ times : List Span,
      times.map some = (estimates request.estimate (keepAliveTexts events)).map Span.stretch? ∧
      (bridge.run (messages.map .dispatch)).toldTo place =
        bridge.toldTo place ++
          (times.map fun time => request.told place true (.keepAlive time)) ++
          (events.find? Event.isTerminal).toList.map
            fun event => request.told place false (.done (dialect.verdict event))) ∧
    ∀ before message after, messages = before ++ message :: after →
      let result := ((bridge.run (before.map .dispatch)).dispatch message).2
      (result = .ignored ↔ message.class? = none ∨ message.class? = some .command) ∧
      (bridge.Quiet → ∀ event, Event.ofMessage? message = some event →
        (message.sequence = request.sequence → result =
          if (before.filterMap (eventFor? request.sequence)).any Event.isTerminal then .noRequest
          else .delivered) ∧
        (bridge.registry.lookup message.sequence = none → result = .noRequest)) := by
  intro bridge events
  have hagrees : bridge.Agrees := run_agrees dialect settings link steps
  have hdialect : bridge.dialect = dialect :=
    (Bridge.run_moves (.new dialect settings link) steps).dialect_eq
  have hopen : request.completed = false := by
    obtain ⟨request', hrequest', hopen, -⟩ := (hagrees.owner_iff _ _).mp howner
    obtain rfl := Option.some.inj (hrequest.symm.trans hrequest')
    exact hopen
  have h : bridge.Attended place request session := ⟨hagrees, hrequest, hopen, hsession,
    run_tellable dialect settings link steps place request hrequest⟩
  refine ⟨?_, fun before message after heq => ⟨?_, fun hquiet event hevent => ?_⟩⟩
  · rw [← hdialect]
    exact h.run_tells hsteady messages
  · rw [dispatch_eq_ignored_iff, Event.ofMessage?_eq_none_iff]
  · refine ⟨fun hsequence => ?_, fun hnone => ?_⟩
    · exact h.run_result hsteady hquiet before (eventFor?_eq_some_iff.mpr ⟨hsequence, hevent⟩)
    · -- A number that is free stays free.
      have hmoves := hquiet.run_moves hagrees before
      have hstill : (bridge.run (before.map .dispatch)).registry.lookup message.sequence =
          none := by
        refine Option.eq_none_iff_forall_ne_some.mpr fun q hq => ?_
        rw [hmoves.lookup_of_lookup hagrees (fun _ => id) hq] at hnone
        exact absurd hnone (by simp)
      rw [dispatch_of_no_owner hevent hstill]

/-- A request is told of its work and of its outcome, and an error that comes late finds nobody. -/
theorem run_leads_stream_ack_done_error :
    let bridge := (Bridge.new .tcs {} {}).run [.create .stop (.single {})]
    let ack : Message := ⟨1, 17, 3, 1, 1, "5000"⟩
    let done : Message := ⟨1, 17, 5, 1, 1, "OK 7"⟩
    let error : Message := ⟨1, 17, 6, 1, 1, "late"⟩
    (bridge.run ([ack, done, error].map .dispatch)).toldTo 0 =
        [⟨0, 1, "STOP", .keepAlive ⟨5500000000⟩, true⟩,
          ⟨0, 1, "STOP", .done (.ok ["7"]), false⟩] ∧
      ((bridge.run ([ack, done].map .dispatch)).dispatch error).2 = .noRequest := by
  intro bridge ack done error
  have hrequest : bridge.requests[0]? = some
      { sequence := 1, command := .stop, estimate := ⟨10000000000⟩,
        session := some (.single {}) } := rfl
  have hquiet : bridge.Quiet := by
    intro place session hsession
    cases place with
    | zero =>
        obtain rfl : Session.single {} = session := Option.some.inj hsession
        rfl
    | succ place =>
        have hnone : bridge.sessionAt (place + 1) = none := rfl
        rw [hnone] at hsession
        exact absurd hsession (by simp)
  obtain ⟨⟨times, htimes, htold⟩, hresults⟩ := run_leads_stream .tcs {} {}
    [.create .stop (.single {})] hrequest rfl rfl ⟨rfl, fun _ => rfl, rfl⟩ [ack, done, error]
  have hevents : [ack, done, error].filterMap (eventFor? 1) =
      [.ack "5000", .done "OK 7", .error "late"] := rfl
  have hstretched : (estimates ⟨10000000000⟩ (keepAliveTexts
      [.ack "5000", .done "OK 7", .error "late"])).map Span.stretch? = [some ⟨5500000000⟩] := by
    decide +kernel
  have hverdict : Dialect.tcs.verdict (.done "OK 7") = .ok ["7"] := by decide +kernel
  rw [hevents] at htimes htold
  obtain rfl : times = [⟨5500000000⟩] :=
    List.map_injective_iff.mpr (Option.some_injective _) (htimes.trans hstretched)
  refine ⟨?_, ((hresults [ack, done] error [] rfl).2 hquiet (.error "late") rfl).1 rfl⟩
  rw [htold]
  show [] ++ _ ++ [Request.told _ 0 false (.done (Dialect.tcs.verdict (.done "OK 7")))] = _
  rw [hverdict]
  rfl

end Bridge

end TelescopeLink
