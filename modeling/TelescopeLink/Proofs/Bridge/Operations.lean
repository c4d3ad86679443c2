import TelescopeLink.Proofs.Bridge.Agreement

/-!
# Operations are sequences of moves

Every operation of a bridge is a sequence of moves (`step_moves`), so what all moves keep holds
after every run from a new bridge (`run_moves`). An operation on the request at one place touches
that place, and the places of new requests if the session there submits commands of its own
(`Reach`); all other requests are out of its reach.

A session may act in its callbacks: complete its own request on a keep-alive, or submit a command
on the outcome, with a session that submits another one. `conclude_moves` follows such a chain by
induction on the session. That a session which completes "whichever request has its number" on a
keep-alive completes its own is where agreement comes in.
-/

namespace TelescopeLink

/-- The outcome that an event which ends a request tells: what its text says as a reply, except that
an error is no success. -/
def Dialect.verdict (dialect : Dialect) : Event → Outcome
  | .error text =>
    if (dialect.reply text).success then
      Outcome.failed Outcome.farEndError (String.ofList (Text.trim text.toList))
    else dialect.reply text
  | event => dialect.reply event.text

namespace Bridge

/-- The places that an operation on the request at `place` may touch, given the session that this
request holds and how many requests there are. -/
def Reach (session? : Option Session) (place size q : Nat) : Prop :=
  q = place ∨ session?.any Session.submits = true ∧ size ≤ q

theorem Moves.reach {session? : Option Session} {place size : Nat} {first second : Bridge}
    (h : Moves (· = place) first second) : Moves (Reach session? place size) first second :=
  h.mono fun _ hq => Or.inl hq

/-! ### Creating and sending -/

theorem create_eq_some_iff {bridge after : Bridge} {command : Command} {session : Session}
    {place : Nat} :
    bridge.create command session = some (place, after) ↔
      place = bridge.requests.length ∧ ∃ n registry,
        bridge.registry.allocate? (fun _ => bridge.requests.length) = some (n, registry) ∧
          after = { bridge with
            registry, requests := bridge.requests ++ [bridge.fresh command session n] } := by
  rw [create, Option.map_eq_some_iff]
  constructor
  · intro h
    obtain ⟨⟨n, registry⟩, halloc, heq⟩ := h
    obtain ⟨rfl, rfl⟩ := Prod.mk.inj heq
    exact ⟨rfl, n, registry, halloc, rfl⟩
  · intro h
    obtain ⟨rfl, n, registry, halloc, rfl⟩ := h
    exact ⟨(n, registry), halloc, rfl⟩

theorem create_move {bridge after : Bridge} {command : Command} {session : Session} {place : Nat}
    (h : bridge.create command session = some (place, after)) :
    place = bridge.requests.length ∧ Move place bridge after := by
  obtain ⟨rfl, n, registry, halloc, rfl⟩ := create_eq_some_iff.mp h
  exact ⟨rfl, .register command session halloc⟩

/-- A new request is at the new place, and open. -/
theorem create_request {bridge after : Bridge} {command : Command} {session : Session}
    {place : Nat} (h : bridge.create command session = some (place, after)) :
    ∃ request, after.requests[place]? = some request ∧ request.completed = false := by
  obtain ⟨rfl, n, registry, -, rfl⟩ := create_eq_some_iff.mp h
  exact ⟨bridge.fresh command session n, by simp, rfl⟩

/-- The datagram by which a text is sent for a request. -/
def datagram (bridge : Bridge) (request : Request) (text : String) : Datagram :=
  .ofMessage (bridge.commandMessage request text) bridge.clock

/-- The bridge when the text of a request is recorded. -/
def recorded (bridge : Bridge) (place : Nat) (text : String) : Bridge :=
  bridge.modifyRequest place ({ · with wireText := some text })

section Attempt

variable {bridge : Bridge} {place : Nat} {request : Request}

theorem attempt_of_text {text : String}
    (htext : bridge.dialect.render request.command = .ok (some text)) :
    bridge.attempt place request =
      match bridge.link.send (bridge.datagram request text) with
      | .ok link => ((bridge.recorded place text).around link bridge.running, none)
      | .error error =>
        (bridge.recorded place text,
          some (Outcome.failed Outcome.transmitFailed error.message)) := by
  rw [attempt, htext]
  rfl

/-- A request whose datagram the link takes is on its way. -/
theorem attempt_of_sent {text : String} {link : Link}
    (htext : bridge.dialect.render request.command = .ok (some text))
    (hlink : bridge.link.send (bridge.datagram request text) = .ok link) :
    bridge.attempt place request =
      ((bridge.recorded place text).around link bridge.running, none) := by
  rw [attempt_of_text htext, hlink]

/-- One whose datagram the link does not take has failed, and its text stays recorded. -/
theorem attempt_of_unsent {text : String} {error : Error}
    (htext : bridge.dialect.render request.command = .ok (some text))
    (hlink : bridge.link.send (bridge.datagram request text) = .error error) :
    bridge.attempt place request =
      (bridge.recorded place text,
        some (Outcome.failed Outcome.transmitFailed error.message)) := by
  rw [attempt_of_text htext, hlink]

theorem attempt_of_wordless (h : bridge.dialect.render request.command = .ok none) :
    bridge.attempt place request = (bridge, some (Outcome.ok [])) := by
  rw [attempt, h]

theorem attempt_of_refused {refusal : Refusal}
    (h : bridge.dialect.render request.command = .error refusal) :
    bridge.attempt place request =
      (bridge, some (Outcome.failed Outcome.translationFailed
        (Error.translation refusal).message)) := by
  rw [attempt, h]

end Attempt

/-- An attempt to send records a text or does nothing at all. -/
theorem attempt_cases (bridge : Bridge) (place : Nat) (request : Request) :
    (bridge.attempt place request).1 = bridge ∨
      ∃ text link, (bridge.attempt place request).1 =
        (bridge.modifyRequest place ({ · with wireText := some text })).around link
          bridge.running := by
  cases hrender : bridge.dialect.render request.command with
  | error refusal =>
      rw [attempt_of_refused hrender]
      exact Or.inl rfl
  | ok text? =>
      cases text? with
      | none =>
          rw [attempt_of_wordless hrender]
          exact Or.inl rfl
      | some text =>
          refine Or.inr ⟨text, ?_⟩
          cases hlink : bridge.link.send (bridge.datagram request text) with
          | ok link =>
              rw [attempt_of_sent hrender hlink]
              exact ⟨link, rfl⟩
          | error error =>
              rw [attempt_of_unsent hrender hlink]
              exact ⟨_, rfl⟩

theorem attempt_moves (bridge : Bridge) (place : Nat) (request : Request) :
    Moves (· = place) bridge (bridge.attempt place request).1 := by
  rcases attempt_cases bridge place request with h | ⟨text, link, h⟩
  · rw [h]
    exact .refl bridge
  · rw [h]
    have hrecord : Moves (· = place) bridge
        (bridge.modifyRequest place ({ · with wireText := some text })) :=
      .single rfl (.record text)
    exact hrecord.trans (.single rfl (.surroundings link _))

/-- An attempt to send changes nothing of its request but the text. -/
theorem attempt_request {bridge : Bridge} {place : Nat} {actual : Request}
    (h : bridge.requests[place]? = some actual) (request : Request) :
    ∃ actual', (bridge.attempt place request).1.requests[place]? = some actual' ∧
      actual'.sequence = actual.sequence ∧ actual'.command = actual.command ∧
        actual'.completed = actual.completed ∧ actual'.session = actual.session := by
  rcases attempt_cases bridge place request with heq | ⟨text, link, heq⟩
  · rw [heq]
    exact ⟨actual, h, rfl, rfl, rfl, rfl⟩
  · rw [heq, requests_around]
    exact ⟨_, requests_modifyRequest_self bridge h _, rfl, rfl, rfl, rfl⟩

theorem attempt_length (bridge : Bridge) (place : Nat) (request : Request) :
    (bridge.attempt place request).1.requests.length = bridge.requests.length := by
  rcases attempt_cases bridge place request with h | ⟨text, link, h⟩
  · rw [h]
  · rw [h]
    exact length_requests_modifyRequest ..

/-- Nobody is told of an attempt. -/
theorem attempt_log (bridge : Bridge) (place : Nat) (request : Request) :
    (bridge.attempt place request).1.log = bridge.log := by
  rcases attempt_cases bridge place request with h | ⟨text, link, h⟩
  · rw [h]
  · rw [h]
    rfl

/-! ### Ending a request -/

/-- The bridge when a request is over and its caller has been told, before the caller submits
anything. -/
def ended (bridge : Bridge) (place : Nat) (request : Request) (outcome : Outcome) (halts : Bool) :
    Bridge :=
  ((bridge.retire place request).tell place request (.done outcome)).around bridge.link
    (bridge.running && !halts)

theorem conclude_single (conduct : Conduct) (bridge : Bridge) (place : Nat) (request : Request)
    (outcome : Outcome) :
    conclude (.single conduct) bridge place request outcome =
      (bridge.ended place request outcome conduct.halts, conduct.failsDone) := rfl

theorem conclude_chain (conduct : Conduct) (command : Command) (next : Session) (bridge : Bridge)
    (place : Nat) (request : Request) (outcome : Outcome) :
    conclude (.chain conduct command next) bridge place request outcome =
      match (bridge.ended place request outcome conduct.halts).create command next with
      | none => (bridge.ended place request outcome conduct.halts, true)
      | some (place, created) =>
        match created.requests[place]? with
        | none => (created, true)
        | some request =>
          match created.attempt place request with
          | (sent, none) => (sent, conduct.failsDone)
          | (sent, some outcome) =>
            ((conclude next sent place request outcome).1,
              (conclude next sent place request outcome).2 || conduct.failsDone) := rfl

/-- Only number and command of a request matter for its end. -/
theorem ended_congr (bridge : Bridge) (place : Nat) {request actual : Request}
    (hsequence : request.sequence = actual.sequence) (hcommand : request.command = actual.command)
    (outcome : Outcome) (halts : Bool) :
    bridge.ended place request outcome halts = bridge.ended place actual outcome halts := by
  simp only [ended, tell, retire, hsequence, hcommand]

theorem ended_moves {bridge : Bridge} {place : Nat} {request : Request}
    (hrequest : bridge.requests[place]? = some request) (hopen : request.completed = false)
    (outcome : Outcome) (halts : Bool) :
    Moves (· = place) bridge (bridge.ended place request outcome halts) := by
  have hretire : Moves (· = place) bridge
      ((bridge.retire place request).tell place request (.done outcome)) :=
    .single rfl (.retire hrequest hopen outcome)
  exact hretire.trans (.single rfl (.surroundings _ _))

/-- What a session does when it has been told the outcome is about new requests only, and nothing at
all unless it submits. -/
theorem conclude_rest (session : Session) {bridge : Bridge} {place : Nat}
    {request actual : Request} (hactual : bridge.requests[place]? = some actual)
    (hopen : actual.completed = false) (hsequence : request.sequence = actual.sequence)
    (hcommand : request.command = actual.command) (outcome : Outcome) :
    Moves (fun q => session.submits = true ∧ bridge.requests.length ≤ q)
      (bridge.ended place actual outcome session.conduct.halts)
      (conclude session bridge place request outcome).1 := by
  -- What a session submits comes with a session that is smaller, so this follows the chain of what
  -- is submitted.
  induction session generalizing bridge place request actual outcome with
  | single conduct =>
      rw [conclude_single, ended_congr bridge place hsequence hcommand]
      exact .refl _
  | chain conduct command next ih =>
      rw [conclude_chain, ended_congr bridge place hsequence hcommand]
      have hlength := (ended_moves hactual hopen outcome conduct.halts).length_le
      -- All that follows is about requests that come behind those that were there.
      have hlater : ∀ {place' : Nat} {first second : Bridge}, bridge.requests.length ≤ place' →
          Moves (· = place') first second →
            Moves (fun q => (Session.chain conduct command next).submits = true ∧
              bridge.requests.length ≤ q) first second := by
        intro place' first second hle hmoves
        refine hmoves.mono ?_
        rintro q rfl
        exact ⟨rfl, hle⟩
      split
      · exact .refl _
      · rename_i place' created hcreate
        -- The next command is registered and goes out, or is attempted at least.
        obtain ⟨request', hrequest', hnew⟩ := create_request hcreate
        obtain ⟨rfl, hregister⟩ := create_move hcreate
        have hsent := (hlater hlength (.single rfl hregister)).trans
          (hlater hlength (attempt_moves created _ request'))
        obtain ⟨actual', hactual', hsequence', hcommand', hcompleted', -⟩ :=
          attempt_request hrequest' request'
        rw [hrequest']
        dsimp only
        rcases hattempt : created.attempt _ request' with ⟨sent, _ | outcome'⟩
        · rw [hattempt] at hsent
          exact hsent
        · -- It did not reach the wire, so it ends in its turn.
          rw [hattempt] at hsent hactual'
          have hopen' := hcompleted'.trans hnew
          have hsize := (List.getElem?_eq_some_iff.mp hactual').1
          have hended := hlater hlength (ended_moves hactual' hopen' outcome' next.conduct.halts)
          refine hsent.trans (hended.trans ((ih hactual' hopen' hsequence'.symm hcommand'.symm
            outcome').mono fun q hq => ⟨rfl, ?_⟩))
          exact hlength.trans (hsize.le.trans hq.2)

/-- **The end of a request**, with all that its session does when it is told. -/
theorem conclude_moves (session : Session) {bridge : Bridge} {place : Nat}
    {request actual : Request} (hactual : bridge.requests[place]? = some actual)
    (hopen : actual.completed = false) (hsequence : request.sequence = actual.sequence)
    (hcommand : request.command = actual.command) (outcome : Outcome) :
    Moves (Reach (some session) place bridge.requests.length) bridge
      (conclude session bridge place request outcome).1 :=
  (ended_moves hactual hopen outcome session.conduct.halts).reach.trans
    ((conclude_rest session hactual hopen hsequence hcommand outcome).mono fun _ => Or.inr)

theorem sessionAt_eq {bridge : Bridge} {place : Nat} {request : Request}
    (h : bridge.requests[place]? = some request) : bridge.sessionAt place = request.session := by
  rw [sessionAt, h]
  rfl

theorem finish_of_none {bridge : Bridge} {place : Nat} (hrequest : bridge.requests[place]? = none)
    (outcome : Outcome) : bridge.finish place outcome = (bridge, false) := by
  rw [finish, hrequest]

theorem finish_of_completed {bridge : Bridge} {place : Nat} {request : Request}
    (hrequest : bridge.requests[place]? = some request) (hcompleted : request.completed = true)
    (outcome : Outcome) : bridge.finish place outcome = (bridge, false) := by
  rw [finish, hrequest]
  dsimp only
  rw [if_pos hcompleted]

theorem finish_of_open {bridge : Bridge} {place : Nat} {request : Request} {session : Session}
    (hrequest : bridge.requests[place]? = some request) (hopen : request.completed = false)
    (hsession : request.session = some session) (outcome : Outcome) :
    bridge.finish place outcome = conclude session bridge place request outcome := by
  rw [finish, hrequest]
  dsimp only
  rw [hopen, if_neg Bool.false_ne_true, hsession]

/-- An outcome ends a request once; after that it does nothing. -/
theorem finish_moves {bridge : Bridge} (h : bridge.Agrees) (place : Nat) (outcome : Outcome) :
    Moves (Reach (bridge.sessionAt place) place bridge.requests.length) bridge
      (bridge.finish place outcome).1 := by
  cases hrequest : bridge.requests[place]? with
  | none =>
      rw [finish_of_none hrequest]
      exact .refl bridge
  | some request =>
      cases hopen : request.completed with
      | true =>
          rw [finish_of_completed hrequest hopen]
          exact .refl bridge
      | false =>
          obtain ⟨session, hsession⟩ := h.session_of_open hrequest hopen
          rw [finish_of_open hrequest hopen hsession, sessionAt_eq hrequest, hsession]
          exact conclude_moves session hrequest hopen rfl rfl outcome

/-- **Sending** touches the request, and what its session submits if it ends at once. -/
theorem send_moves {bridge : Bridge} (h : bridge.Agrees) (place : Nat) :
    Moves (Reach (bridge.sessionAt place) place bridge.requests.length) bridge
      (bridge.send place).1 := by
  rw [send]
  cases hrequest : bridge.requests[place]? with
  | none => exact .refl bridge
  | some request =>
      dsimp only
      have hattempt := attempt_moves bridge place request
      obtain ⟨actual, hactual, -, -, -, hsession⟩ := attempt_request hrequest request
      have hlength := attempt_length bridge place request
      rcases hsent : bridge.attempt place request with ⟨sent, _ | outcome⟩
      · rw [hsent] at hattempt
        exact hattempt.reach
      · rw [hsent] at hattempt hactual hlength
        have hfinish := finish_moves (hattempt.agrees h) place outcome
        rw [sessionAt_eq hactual, hsession, hlength] at hfinish
        rw [sessionAt_eq hrequest]
        exact hattempt.reach.trans hfinish

/-- Submitting touches no request that was there before. -/
theorem submit_moves {bridge after : Bridge} (h : bridge.Agrees) {command : Command}
    {session : Session} {place : Nat} {failed : Bool}
    (hsubmit : bridge.submit command session = some (place, after, failed)) :
    Moves (bridge.requests.length ≤ ·) bridge after := by
  rw [submit, Option.map_eq_some_iff] at hsubmit
  obtain ⟨⟨place', created⟩, hcreate, heq⟩ := hsubmit
  obtain ⟨rfl, hregister⟩ := create_move hcreate
  obtain ⟨rfl, hsend⟩ := Prod.mk.inj heq
  have hcreated : Moves (bridge.requests.length ≤ ·) bridge created := .single le_rfl hregister
  have hsent := (send_moves (hregister.agrees h) bridge.requests.length).mono
    (fun q hq => hq.elim (fun heq => heq ▸ le_rfl) fun hle => hregister.length_le.trans hle.2)
  rw [hsend] at hsent
  exact hcreated.trans hsent

/-! ### Events -/

/-- The bridge when the caller of a request has been told a keep-alive. -/
def notified (bridge : Bridge) (place : Nat) (request : Request) (time : Span) : Bridge :=
  (bridge.modifyRequest place ({ · with keepAlives := request.keepAlives + 1 })).tell place request
    (.keepAlive time)

theorem requests_notified_self (bridge : Bridge) {place : Nat} {request : Request}
    (h : bridge.requests[place]? = some request) (time : Span) :
    (bridge.notified place request time).requests[place]? =
      some { request with keepAlives := request.keepAlives + 1 } :=
  requests_modifyRequest_self bridge h _

theorem notified_move {bridge : Bridge} {place : Nat} {request : Request}
    (h : bridge.requests[place]? = some request) (hopen : request.completed = false)
    (time : Span) : Move place bridge (bridge.notified place request time) :=
  .relay h hopen time

section Relay

variable {bridge : Bridge} {place : Nat} {request : Request} {session : Session} {time : Span}

/-- A session that leaves the bridge alone is told, and that is all. -/
theorem relay_of_alone (halone : session.conduct.conclusion = none) :
    bridge.relay place request session time =
      (bridge.notified place request time, session.conduct.failsKeepAlive request.keepAlives) := by
  rw [relay, halone]
  dsimp only
  rw [Bool.false_or]
  rfl

/-- So is one that would complete a request, if none has the number. -/
theorem relay_of_gone {text : String} (htext : session.conduct.conclusion = some text)
    (hgone : bridge.registry.lookup request.sequence = none) :
    bridge.relay place request session time =
      (bridge.notified place request time, session.conduct.failsKeepAlive request.keepAlives) := by
  have hgone' : (bridge.notified place request time).registry.lookup request.sequence = none :=
    hgone
  rw [notified] at hgone'
  rw [relay, htext]
  dsimp only
  rw [hgone']
  dsimp only
  rw [Bool.false_or]
  rfl

/-- If one has it, that one is completed from the callback. -/
theorem relay_of_owner {text : String} {owner : Nat}
    (htext : session.conduct.conclusion = some text)
    (howner : bridge.registry.lookup request.sequence = some owner) :
    bridge.relay place request session time =
      (((bridge.notified place request time).answer owner text).1,
        ((bridge.notified place request time).answer owner text).2 ||
          session.conduct.failsKeepAlive request.keepAlives) := by
  have howner' : (bridge.notified place request time).registry.lookup request.sequence =
      some owner := howner
  rw [notified] at howner'
  rw [relay, htext]
  dsimp only
  rw [howner']
  rfl

end Relay

/-- **A keep-alive** is told to the session, which may end its own request. -/
theorem relay_moves {bridge : Bridge} (h : bridge.Agrees) {place : Nat} {request : Request}
    (hrequest : bridge.requests[place]? = some request) (hopen : request.completed = false)
    (session : Session) (timeToComplete : Span) :
    Moves (Reach request.session place bridge.requests.length) bridge
      (bridge.relay place request session timeToComplete).1 := by
  have hmove := notified_move hrequest hopen timeToComplete
  have hrelay : Moves (Reach request.session place bridge.requests.length) bridge _ :=
    .reach (.single rfl hmove)
  cases hconclusion : session.conduct.conclusion with
  | none =>
      rw [relay_of_alone hconclusion]
      exact hrelay
  | some text =>
      -- The request that has the number is its own.
      rw [relay_of_owner hconclusion (h.lookup hrequest hopen)]
      have hself := requests_notified_self bridge hrequest timeToComplete
      have hplace := (List.getElem?_eq_some_iff.mp hrequest).1
      have hfinish := finish_moves (hmove.agrees h) place (bridge.dialect.reply text)
      rw [sessionAt_eq hself, hmove.length_eq hplace] at hfinish
      exact hrelay.trans hfinish

theorem keepAlive_moves {bridge : Bridge} (h : bridge.Agrees) {place : Nat} {request : Request}
    (hrequest : bridge.requests[place]? = some request) (hopen : request.completed = false)
    (text : String) :
    Moves (Reach request.session place bridge.requests.length) bridge
      (bridge.keepAlive place request text).1 := by
  have hmove : Move place bridge _ := .hear hrequest hopen text
  have hhear : Moves (Reach request.session place bridge.requests.length) bridge _ :=
    .reach (.single rfl hmove)
  rw [keepAlive]
  cases (request.hear text).estimate.stretch? with
  | none => exact hhear
  | some timeToComplete =>
      rw [relayWithin]
      split
      · exact hhear
      · rename_i session _
        have hrelay := relay_moves (hmove.agrees h)
          (requests_modifyRequest_self bridge hrequest (·.hear text)) hopen session timeToComplete
        rw [length_requests_modifyRequest] at hrelay
        exact hhear.trans hrelay

section Complete

variable {bridge : Bridge} {place : Nat} {request : Request} {event : Event}

theorem complete_of_none (hrequest : bridge.requests[place]? = none) (event : Event) :
    bridge.complete place event = (bridge, false) := by
  rw [complete, hrequest]

theorem complete_of_completed (hrequest : bridge.requests[place]? = some request)
    (hcompleted : request.completed = true) (event : Event) :
    bridge.complete place event = (bridge, false) := by
  rw [complete, hrequest]
  dsimp only
  rw [if_pos hcompleted]

/-- An event that does not end an open request is a keep-alive. -/
theorem complete_of_keepAlive (hrequest : bridge.requests[place]? = some request)
    (hopen : request.completed = false) (hkeep : event.isTerminal = false) :
    bridge.complete place event = bridge.keepAlive place request event.text := by
  rw [complete, hrequest]
  dsimp only
  rw [hopen, if_neg Bool.false_ne_true]
  cases event with
  | ack text => rfl
  | action text => rfl
  | _ => exact absurd hkeep (by simp [Event.isTerminal])

/-- Any other event ends it, with the outcome that it tells. -/
theorem complete_of_terminal (hrequest : bridge.requests[place]? = some request)
    (hopen : request.completed = false) (hterminal : event.isTerminal = true) :
    bridge.complete place event = bridge.finish place (bridge.dialect.verdict event) := by
  rw [complete, hrequest]
  dsimp only
  rw [hopen, if_neg Bool.false_ne_true]
  cases event with
  | done text => rfl
  | response text => rfl
  | error text => rfl
  | _ => exact absurd hterminal (by simp [Event.isTerminal])

end Complete

/-- **Events** touch the request they are for, and nothing if it has ended. -/
theorem complete_moves {bridge : Bridge} (h : bridge.Agrees) (place : Nat) (event : Event) :
    Moves (Reach (bridge.sessionAt place) place bridge.requests.length) bridge
      (bridge.complete place event).1 := by
  cases hrequest : bridge.requests[place]? with
  | none =>
      rw [complete_of_none hrequest]
      exact .refl bridge
  | some request =>
      cases hopen : request.completed with
      | true =>
          rw [complete_of_completed hrequest hopen]
          exact .refl bridge
      | false =>
          cases hterminal : event.isTerminal with
          | true =>
              rw [complete_of_terminal hrequest hopen hterminal]
              exact finish_moves h place _
          | false =>
              rw [complete_of_keepAlive hrequest hopen hterminal, sessionAt_eq hrequest]
              exact keepAlive_moves h hrequest hopen event.text

/-! ### Steps and runs -/

section Dispatch

variable {bridge : Bridge} {message : Message}

/-- A message that is no event is ignored. -/
theorem dispatch_of_no_event (hevent : Event.ofMessage? message = none) :
    bridge.dispatch message = (bridge, .ignored) := by
  rw [dispatch, hevent]

/-- An event whose number nobody has finds no request. -/
theorem dispatch_of_no_owner {event : Event} (hevent : Event.ofMessage? message = some event)
    (howner : bridge.registry.lookup message.sequence = none) :
    bridge.dispatch message = (bridge, .noRequest) := by
  rw [dispatch, hevent]
  dsimp only
  rw [howner]

/-- Any other event is led to the request that owns its number. -/
theorem dispatch_of_owner {event : Event} {place : Nat}
    (hevent : Event.ofMessage? message = some event)
    (howner : bridge.registry.lookup message.sequence = some place) :
    bridge.dispatch message =
      ((bridge.complete place event).1,
        if (bridge.complete place event).2 then .faulted else .delivered) := by
  rw [dispatch, hevent]
  dsimp only
  rw [howner]

end Dispatch

/-- The places that a message may touch: what is in reach of the request that owns its number, if it
is an event. -/
def DispatchReach (bridge : Bridge) (message : Message) (q : Nat) : Prop :=
  ∃ event place, Event.ofMessage? message = some event ∧
    bridge.registry.lookup message.sequence = some place ∧
      Reach (bridge.sessionAt place) place bridge.requests.length q

theorem dispatch_moves {bridge : Bridge} (h : bridge.Agrees) (message : Message) :
    Moves (bridge.DispatchReach message) bridge (bridge.dispatch message).1 := by
  cases hevent : Event.ofMessage? message with
  | none =>
      rw [dispatch_of_no_event hevent]
      exact .refl bridge
  | some event =>
      cases howner : bridge.registry.lookup message.sequence with
      | none =>
          rw [dispatch_of_no_owner hevent howner]
          exact .refl bridge
      | some place =>
          rw [dispatch_of_owner hevent howner]
          exact (complete_moves h place event).mono fun q hq => ⟨event, place, hevent, howner, hq⟩

theorem surroundings_moves (bridge : Bridge) (link : Link) :
    Moves (fun _ => True) bridge { bridge with link } := by
  have hmove : Move 0 bridge { bridge with link } := .surroundings link bridge.running
  exact .single trivial hmove

/-- **Every step is a sequence of moves.** -/
theorem step_moves {bridge : Bridge} (h : bridge.Agrees) (step : Step) :
    Moves (fun _ => True) bridge (bridge.step step).1 := by
  cases step with
  | create command session =>
      rw [Bridge.step]
      cases hcreate : bridge.create command session with
      | none => exact .refl bridge
      | some created => exact .single trivial (create_move hcreate).2
  | submit command session =>
      rw [Bridge.step]
      cases hsubmit : bridge.submit command session with
      | none => exact .refl bridge
      | some submitted => exact (submit_moves h hsubmit).mono fun _ _ => trivial
  | send place => exact (send_moves h place).mono fun _ _ => trivial
  | complete place event => exact (complete_moves h place event).mono fun _ _ => trivial
  | dispatch message => exact (dispatch_moves h message).mono fun _ _ => trivial
  | refuse on => exact surroundings_moves bridge _
  | close => exact surroundings_moves bridge _
  | setLink bound refusal => exact surroundings_moves bridge _

/-- **Every run is a sequence of moves.** -/
theorem run_moves {bridge : Bridge} (h : bridge.Agrees) (steps : List Step) :
    Moves (fun _ => True) bridge (bridge.run steps) := by
  induction steps generalizing bridge with
  | nil => exact .refl bridge
  | cons step steps ih =>
      have hstep := step_moves h step
      rw [run_cons]
      exact hstep.trans (ih (hstep.agrees h))

/-- Registry and requests agree after every run from a new bridge. -/
theorem run_agrees (dialect : Dialect) (settings : Settings) (link : Link) (steps : List Step) :
    ((Bridge.new dialect settings link).run steps).Agrees :=
  (run_moves (.new dialect settings link) steps).agrees (.new dialect settings link)

end Bridge

end TelescopeLink
