import TelescopeLink.Proofs.Bridge.Stream
import TelescopeLink.Proofs.Text.Decimal

/-!
# How long a caller is told to wait

The estimate of a request is the one that is configured for its command, until a keep-alive reports
another. What reports one is said by `reportedMillis?`, and of many the last counts
(`lastReported`). A request that is over hears nothing, so only the texts count that reach it while
it is open (`heardBy`).

`Follows` compares two bridges on the way of one request: what its estimate has become, and what its
caller has been told of the time, when it has heard these texts in between. Every operation follows
the texts that it lets the request hear (`step_follows`), most of them none, and so does every run
(`run_follows`).
-/

namespace TelescopeLink

/-! ### Texts -/

/-- The milliseconds that a keep-alive reports: its first word, if that is a number of 64 bits. -/
def reportedMillis? (text : String) : Option UInt64 :=
  (Text.words text.toList).head?.bind Text.uint64?

/-- The milliseconds reported last, or those of before if none were. -/
def lastReported (configured : UInt64) (texts : List String) : UInt64 :=
  (texts.filterMap reportedMillis?).getLast?.getD configured

/-- The estimate after these keep-alives. -/
def latest (estimate : Span) (texts : List String) : Span :=
  texts.foldl (fun estimate text => (Request.reportedEstimate? text).getD estimate) estimate

theorem reportedEstimate?_eq (text : String) :
    Request.reportedEstimate? text = (reportedMillis? text).map Span.ofMillis := by
  rw [Request.reportedEstimate?, reportedMillis?, Option.map_bind]
  rfl

/-- Which texts report milliseconds, and how many. -/
theorem reportedMillis?_eq_some_iff {text : String} {millis : UInt64} :
    reportedMillis? text = some millis ↔ ∃ token digits, (Text.words text.toList).head? = some token ∧
      (token = digits ∨ token = '+' :: digits) ∧ Text.IsDigits digits ∧
        Text.digitsValue digits = millis.toNat := by
  rw [reportedMillis?, Option.bind_eq_some_iff]
  simp only [Text.uint64?_eq_some_iff, exists_and_left]

/-- Taking note of one report after the other leaves the last. -/
theorem latest_ofMillis (configured : UInt64) (texts : List String) :
    latest (Span.ofMillis configured) texts = Span.ofMillis (lastReported configured texts) := by
  induction texts generalizing configured with
  | nil => rfl
  | cons text texts ih =>
      have hnext : (Request.reportedEstimate? text).getD (Span.ofMillis configured) =
          Span.ofMillis ((reportedMillis? text).getD configured) := by
        rw [reportedEstimate?_eq]
        cases reportedMillis? text <;> rfl
      rw [latest, List.foldl_cons, hnext]
      refine (ih _).trans (congrArg Span.ofMillis ?_)
      unfold lastReported
      rw [List.filterMap_cons]
      cases reportedMillis? text with
      | none => rfl
      | some millis => simp [List.getLast?_cons]

theorem estimates_append (estimate : Span) (texts more : List String) :
    estimates estimate (texts ++ more) =
      estimates estimate texts ++ estimates (latest estimate texts) more := by
  induction texts generalizing estimate with
  | nil => rfl
  | cons text texts ih =>
      rw [List.cons_append, estimates, estimates, ih]
      rfl

/-- The time that a notice tells. -/
def Notice.time? : Notice → Option Span
  | .keepAlive time => some time
  | .done _ => none

namespace Bridge

/-- The times that the caller of a request was told, in order. -/
def timesTold (bridge : Bridge) (place : Nat) : List Span :=
  (bridge.toldTo place).filterMap (·.notice.time?)

/-- The request at a place is there and not over. -/
def openAt (bridge : Bridge) (place : Nat) : Bool := bridge.requests[place]?.any (!·.completed)

/-- The event that a step gives to the request at a place: directly, or as a message with its
number. -/
def givenBy? (bridge : Bridge) (place : Nat) : Step → Option Event
  | .complete q event => if q = place then some event else none
  | .dispatch message =>
    if bridge.registry.lookup message.sequence = some place then Event.ofMessage? message else none
  | _ => none

/-- The keep-alive that the request at a place hears in a step. -/
def heardIn (bridge : Bridge) (place : Nat) (step : Step) : List String :=
  if bridge.openAt place then
    ((bridge.givenBy? place step).filter (!·.isTerminal)).toList.map Event.text
  else []

/-- The keep-alives that the request at a place hears in steps taken one after another. -/
def heardBy (place : Nat) (bridge : Bridge) : List Step → List String
  | [] => []
  | step :: steps => bridge.heardIn place step ++ heardBy place (bridge.step step).1 steps

/-- What has become of the request at a place when it has heard these texts: its estimate is that of
the last one, and its caller was told the estimate after each of them, stretched. -/
structure Follows (place : Nat) (texts : List String) (bridge after : Bridge) : Prop where
  estimate : ∀ request, bridge.requests[place]? = some request →
    ∃ request', after.requests[place]? = some request' ∧
      request'.estimate = latest request.estimate texts
  told : ∀ request, bridge.requests[place]? = some request →
    (after.timesTold place).map some =
      (bridge.timesTold place).map some ++ (estimates request.estimate texts).map Span.stretch?

namespace Follows

variable {place : Nat} {texts more : List String} {bridge middle after : Bridge}

/-- Where neither requests nor the log change, nothing was heard. -/
theorem of_same (hrequests : after.requests = bridge.requests) (hlog : after.log = bridge.log) :
    Follows place [] bridge after where
  estimate := by
    intro request hrequest
    exact ⟨request, hrequests.symm ▸ hrequest, rfl⟩
  told := by
    intro request hrequest
    rw [timesTold, toldTo, hlog]
    simp [timesTold, toldTo, estimates]

theorem refl (bridge : Bridge) : Follows place [] bridge bridge := .of_same rfl rfl

theorem trans (h : Follows place texts bridge middle) (h' : Follows place more middle after) :
    Follows place (texts ++ more) bridge after where
  estimate := by
    intro request hrequest
    obtain ⟨request', hrequest', hestimate⟩ := h.estimate request hrequest
    obtain ⟨request'', hrequest'', hestimate'⟩ := h'.estimate request' hrequest'
    refine ⟨request'', hrequest'', ?_⟩
    rw [hestimate', hestimate, latest, latest, latest, List.foldl_append]
  told := by
    intro request hrequest
    obtain ⟨request', hrequest', hestimate⟩ := h.estimate request hrequest
    rw [h'.told request' hrequest', h.told request hrequest, hestimate, estimates_append,
      List.map_append, List.append_assoc]

/-- Of a request that is not there, nothing is said. -/
theorem of_none (h : bridge.requests[place]? = none) : Follows place texts bridge after where
  estimate := by
    intro request hrequest
    exact absurd (h.symm.trans hrequest) (by simp)
  told := by
    intro request hrequest
    exact absurd (h.symm.trans hrequest) (by simp)

/-- Nothing is heard of moves that do not touch the request. -/
theorem of_not_touched {touched : Nat → Prop} (hmoves : Moves touched bridge after)
    (hplace : ¬touched place) : Follows place [] bridge after where
  estimate := by
    intro request hrequest
    exact ⟨request, (hmoves.request_of_not_touched hplace).trans hrequest, rfl⟩
  told := by
    intro request hrequest
    rw [timesTold, hmoves.toldTo_of_not_touched hplace]
    simp [timesTold, estimates]

/-- Nor of a change that leaves estimates and the log alone. -/
theorem of_change (q : Nat) (change : Request → Request)
    (hchange : ∀ request, (change request).estimate = request.estimate)
    (hrequests : after.requests = (bridge.modifyRequest q change).requests)
    (htimes : after.timesTold place = bridge.timesTold place) : Follows place [] bridge after where
  estimate := by
    intro request hrequest
    have hafter := (requests_modifyRequest_eq_some_iff bridge q change).mpr ⟨request, hrequest, rfl⟩
    rw [← hrequests] at hafter
    refine ⟨_, hafter, ?_⟩
    split
    · exact hchange request
    · rfl
  told := by
    intro request hrequest
    rw [htimes]
    simp [estimates]

end Follows

/-! ### Operations that tell no time -/

theorem attempt_follows (place : Nat) (bridge : Bridge) (q : Nat) (request : Request) :
    Follows place [] bridge (bridge.attempt q request).1 := by
  rcases attempt_cases bridge q request with h | ⟨text, link, h⟩
  · rw [h]
    exact .refl bridge
  · rw [h]
    exact .of_change q ({ · with wireText := some text }) (fun _ => rfl) rfl rfl

theorem ended_follows (place : Nat) (bridge : Bridge) (q : Nat) (request : Request)
    (outcome : Outcome) (halts : Bool) :
    Follows place [] bridge (bridge.ended q request outcome halts) := by
  refine .of_change q Request.complete (fun _ => rfl) rfl ?_
  show ((bridge.retire q request).tell q request (.done outcome)).timesTold place = _
  rw [timesTold, toldTo_tell, toldTo_retire, List.filterMap_append]
  split
  · exact List.append_nil _
  · exact List.append_nil _

/-- What is about new requests only is not heard by those that are there. -/
theorem Follows.of_later {place size : Nat} {touched : Nat → Prop} {bridge after : Bridge}
    (hmoves : Moves touched bridge after) (hsize : place < size)
    (htouched : ∀ q, touched q → size ≤ q) : Follows place [] bridge after :=
  .of_not_touched hmoves fun hplace => absurd (htouched place hplace) (Nat.not_le.mpr hsize)

/-- **An outcome** tells no time to anyone. -/
theorem finish_follows {bridge : Bridge} (h : bridge.Agrees) (place q : Nat) (outcome : Outcome) :
    Follows place [] bridge (bridge.finish q outcome).1 := by
  cases hplace : bridge.requests[place]? with
  | none => exact .of_none hplace
  | some told =>
      have hsize := (List.getElem?_eq_some_iff.mp hplace).1
      cases hrequest : bridge.requests[q]? with
      | none =>
          rw [finish_of_none hrequest]
          exact .refl bridge
      | some request =>
          cases hopen : request.completed with
          | true =>
              rw [finish_of_completed hrequest hopen]
              exact .refl bridge
          | false =>
              obtain ⟨session, hsession⟩ := h.session_of_open hrequest hopen
              rw [finish_of_open hrequest hopen hsession]
              -- What the session does when it is told is about later requests only.
              have hrest := conclude_rest session hrequest hopen rfl rfl outcome
              exact (ended_follows place bridge q request outcome session.conduct.halts).trans
                (.of_later hrest hsize fun _ hq => hq.2)

theorem send_follows {bridge : Bridge} (h : bridge.Agrees) (place q : Nat) :
    Follows place [] bridge (bridge.send q).1 := by
  rw [send]
  cases bridge.requests[q]? with
  | none => exact .refl bridge
  | some request =>
      dsimp only
      have hattempt := attempt_follows place bridge q request
      have hagrees := (attempt_moves bridge q request).agrees h
      rcases hsent : bridge.attempt q request with ⟨sent, _ | outcome⟩
      · rw [hsent] at hattempt
        exact hattempt
      · rw [hsent] at hattempt hagrees
        exact hattempt.trans (finish_follows hagrees place q outcome)

/-! ### Keep-alives -/

/-- **A keep-alive** is noted and told before anything else comes of it. -/
theorem notified_follows {bridge : Bridge} {place : Nat} {request : Request} {text : String}
    {time : Span} (hrequest : bridge.requests[place]? = some request)
    (htime : (request.hear text).estimate.stretch? = some time) :
    Follows place [text] bridge
      ((bridge.modifyRequest place (·.hear text)).notified place (request.hear text) time) where
  estimate := by
    intro request' hrequest'
    obtain rfl := Option.some.inj (hrequest.symm.trans hrequest')
    exact ⟨_, requests_notified_self _ (requests_modifyRequest_self bridge hrequest _) time, rfl⟩
  told := by
    intro request' hrequest'
    obtain rfl := Option.some.inj (hrequest.symm.trans hrequest')
    rw [timesTold, notified, toldTo_tell, if_pos rfl, toldTo_modifyRequest, toldTo_modifyRequest,
      List.filterMap_append, List.map_append]
    show _ ++ [some time] = _ ++ [(request.hear text).estimate.stretch?]
    rw [htime]
    rfl

/-- **A keep-alive of an open request**: it is noted and told, which leaves the request as open as it
was, and then the session may complete it. -/
theorem Attended.keepAlive_eq {bridge : Bridge} {place : Nat} {request : Request} {session : Session}
    (h : bridge.Attended place request session) (text : String) :
    ∃ told request', Follows place [text] bridge told ∧ told.Attended place request' session ∧
      (bridge.keepAlive place request text).1 =
        match session.conduct.conclusion with
        | none => told
        | some reply => (told.answer place reply).1 := by
  obtain ⟨time, htime⟩ := Span.exists_stretch? (tellable_hear h.estimate text)
  have hsession : (request.hear text).session = some session := h.held
  have hself := requests_modifyRequest_self bridge h.here (·.hear text)
  have hhear : Move place bridge _ := .hear h.here h.opened text
  have htold := notified_move hself h.opened time
  refine ⟨_, _, notified_follows h.here htime, ⟨htold.agrees (hhear.agrees h.agrees),
    requests_notified_self _ hself time, h.opened, h.held, tellable_hear h.estimate text⟩, ?_⟩
  rw [keepAlive, htime, relayWithin, hsession]
  dsimp only
  cases hconclusion : session.conduct.conclusion with
  | none => rw [relay_of_alone hconclusion]
  | some reply =>
      have howner := (hhear.agrees h.agrees).lookup hself h.opened
      rw [relay_of_owner hconclusion howner]

/-- Whatever the session does when it is told, one keep-alive has been heard. -/
theorem Attended.keepAlive_follows {bridge : Bridge} {place : Nat} {request : Request}
    {session : Session} (h : bridge.Attended place request session) (text : String) :
    Follows place [text] bridge (bridge.keepAlive place request text).1 := by
  obtain ⟨told, request', hfollows, hattended, hkeep⟩ := h.keepAlive_eq text
  rw [hkeep]
  cases session.conduct.conclusion with
  | none => exact hfollows
  | some reply => exact hfollows.trans (finish_follows hattended.agrees place place _)

/-! ### Steps and runs -/

theorem openAt_eq {bridge : Bridge} {place : Nat} {request : Request}
    (h : bridge.requests[place]? = some request) : bridge.openAt place = !request.completed := by
  rw [openAt, h]
  rfl

theorem heardIn_complete {bridge : Bridge} {place : Nat} {request : Request}
    (h : bridge.requests[place]? = some request) (event : Event) :
    bridge.heardIn place (.complete place event) =
      if !request.completed && !event.isTerminal then [event.text] else [] := by
  rw [heardIn, openAt_eq h, givenBy?, if_pos rfl]
  cases request.completed <;> cases hterminal : event.isTerminal <;>
    simp [Option.filter, hterminal]

/-- An event is heard by the request that it is for, if by any. -/
theorem complete_follows {bridge : Bridge} (h : bridge.Agrees) (htellable : bridge.Tellable)
    (place q : Nat) (event : Event) :
    Follows place (bridge.heardIn place (.complete q event)) bridge
      (bridge.complete q event).1 := by
  cases hplace : bridge.requests[place]? with
  | none => exact .of_none hplace
  | some request =>
      by_cases hq : q = place
      · subst hq
        rw [heardIn_complete hplace]
        cases hopen : request.completed with
        | true =>
            rw [complete_of_completed hplace hopen]
            exact .refl bridge
        | false =>
            cases hterminal : event.isTerminal with
            | true =>
                rw [complete_of_terminal hplace hopen hterminal]
                exact finish_follows h q q _
            | false =>
                obtain ⟨session, hsession⟩ := h.session_of_open hplace hopen
                have hattended : bridge.Attended q request session :=
                  ⟨h, hplace, hopen, hsession, htellable q request hplace⟩
                rw [complete_of_keepAlive hplace hopen hterminal]
                exact hattended.keepAlive_follows event.text
      · have hnone : bridge.heardIn place (.complete q event) = [] := by
          simp [heardIn, givenBy?, hq]
        have hsize := (List.getElem?_eq_some_iff.mp hplace).1
        rw [hnone]
        refine .of_not_touched (complete_moves h q event) ?_
        intro hreach
        unfold Reach at hreach
        omega

/-- **One step**: a request follows what it hears in it. -/
theorem step_follows {bridge : Bridge} (h : bridge.Agrees) (htellable : bridge.Tellable)
    (place : Nat) (step : Step) :
    Follows place (bridge.heardIn place step) bridge (bridge.step step).1 := by
  have hquiet : bridge.givenBy? place step = none → bridge.heardIn place step = [] := by
    intro hnone
    simp [heardIn, hnone]
  cases hplace : bridge.requests[place]? with
  | none => exact .of_none hplace
  | some request =>
      have hsize := (List.getElem?_eq_some_iff.mp hplace).1
      -- Only an event, applied or dispatched, is heard; no other step changes the times.
      cases step with
      | create command session =>
          rw [hquiet rfl, Bridge.step]
          cases hcreate : bridge.create command session with
          | none => exact .refl bridge
          | some created =>
              obtain ⟨hcreated, hmove⟩ := create_move hcreate
              have hmoves : Moves (bridge.requests.length ≤ ·) bridge created.2 :=
                .single hcreated.ge hmove
              exact .of_later hmoves hsize fun _ => id
      | submit command session =>
          rw [hquiet rfl, Bridge.step]
          cases hsubmit : bridge.submit command session with
          | none => exact .refl bridge
          | some submitted => exact .of_later (submit_moves h hsubmit) hsize fun _ => id
      | send q =>
          rw [hquiet rfl]
          exact send_follows h place q
      | complete q event => exact complete_follows h htellable place q event
      | dispatch message =>
          show Follows place _ bridge (bridge.dispatch message).1
          cases hevent : Event.ofMessage? message with
          | none =>
              rw [dispatch_of_no_event hevent, hquiet (by simp [givenBy?, hevent])]
              exact .refl bridge
          | some event =>
              cases howner : bridge.registry.lookup message.sequence with
              | none =>
                  rw [dispatch_of_no_owner hevent howner, hquiet (by simp [givenBy?, howner])]
                  exact .refl bridge
              | some q =>
                  -- A message that finds an owner is the event that it brings.
                  have hsame : bridge.heardIn place (.dispatch message) =
                      bridge.heardIn place (.complete q event) := by
                    simp [heardIn, givenBy?, hevent, howner]
                  rw [dispatch_of_owner hevent howner, hsame]
                  exact complete_follows h htellable place q event
      | refuse on | close | setLink bound refusal =>
          rw [hquiet rfl]
          exact .of_same rfl rfl

/-- **A run**: a request follows all that it hears. -/
theorem run_follows {bridge : Bridge} (h : bridge.Agrees) (htellable : bridge.Tellable)
    (place : Nat) (steps : List Step) :
    Follows place (heardBy place bridge steps) bridge (bridge.run steps) := by
  induction steps generalizing bridge with
  | nil => exact .refl bridge
  | cons step steps ih =>
      have hmoves := step_moves h step
      have htellable' : (bridge.step step).1.Tellable :=
        hmoves.induction (fun _ _ _ hmove _ => hmove.tellable) htellable
      exact (step_follows h htellable place step).trans (ih (hmoves.agrees h) htellable')

/-- A request that is over hears nothing more. -/
theorem heardBy_of_completed {bridge : Bridge} (h : bridge.Agrees) {place : Nat}
    {request : Request} (hrequest : bridge.requests[place]? = some request)
    (hcompleted : request.completed = true) (steps : List Step) :
    heardBy place bridge steps = [] := by
  induction steps generalizing bridge request with
  | nil => rfl
  | cons step steps ih =>
      have hmoves := step_moves h step
      obtain ⟨request', hrequest', hprogress⟩ := hmoves.progress hrequest
      have hnone : bridge.heardIn place step = [] := by
        rw [heardIn, openAt_eq hrequest, hcompleted]
        rfl
      rw [heardBy, hnone, ih (hmoves.agrees h) hrequest' (hprogress.completed hcompleted)]
      rfl

/-! ### Events one after another -/

end Bridge

/-- The events that reach a request when it is given these one after another: on a keep-alive the
session may give it one of its own. -/
def Session.given (session : Session) (events : List Event) : List Event :=
  events.flatMap fun event =>
    event :: if event.isTerminal then [] else (session.conduct.conclusion.map Event.done).toList

theorem Session.given_cons (session : Session) (event : Event) (events : List Event) :
    session.given (event :: events) =
      event :: ((if event.isTerminal then []
        else (session.conduct.conclusion.map Event.done).toList) ++ session.given events) := rfl

theorem keepAliveTexts_cons (event : Event) (events : List Event) :
    keepAliveTexts (event :: events) =
      if event.isTerminal then [] else event.text :: keepAliveTexts events := by
  rw [keepAliveTexts, List.takeWhile_cons]
  cases event.isTerminal <;> rfl

namespace Bridge

/-- A keep-alive leaves its request open, unless the session ends it there. -/
theorem Attended.after_keepAlive {bridge : Bridge} {place : Nat} {request : Request}
    {session : Session} (h : bridge.Attended place request session) {event : Event}
    (hkeep : event.isTerminal = false) :
    match session.conduct.conclusion with
    | none => ∃ request', (bridge.complete place event).1.Attended place request' session
    | some _ => ∃ request', (bridge.complete place event).1.requests[place]? = some request' ∧
        request'.completed = true := by
  obtain ⟨told, request', -, hattended, hheard⟩ := h.keepAlive_eq event.text
  rw [complete_of_keepAlive h.here h.opened hkeep, hheard]
  cases session.conduct.conclusion with
  | none => exact ⟨request', hattended⟩
  | some reply =>
      have hterminal : (Event.done reply).isTerminal = true := rfl
      have hover := (hattended.complete_tells hterminal).1
      rwa [complete_of_terminal hattended.here hattended.opened rfl] at hover

/-- **Events given to an open request** are heard as far as they are keep-alives, up to the first
that ends it. -/
theorem Attended.heardBy_events {bridge : Bridge} {place : Nat} {request : Request}
    {session : Session} (h : bridge.Attended place request session) (events : List Event) :
    heardBy place bridge (events.map (.complete place)) =
      keepAliveTexts (session.given events) := by
  induction events generalizing bridge request with
  | nil => rfl
  | cons event events ih =>
      have hagrees := (complete_moves h.agrees place event).agrees h.agrees
      rw [List.map_cons, heardBy, heardIn_complete h.here, h.opened, Session.given_cons,
        keepAliveTexts_cons]
      show _ ++ heardBy place (bridge.complete place event).1 _ = _
      -- The first event that ends the request ends what it hears, and so does a keep-alive at which
      -- the session completes it.
      cases hterminal : event.isTerminal with
      | true =>
          obtain ⟨request', hrequest', hcompleted'⟩ := (h.complete_tells hterminal).1
          rw [heardBy_of_completed hagrees hrequest' hcompleted']
          rfl
      | false =>
          have hafter := h.after_keepAlive hterminal
          cases hconclusion : session.conduct.conclusion with
          | none =>
              rw [hconclusion] at hafter
              obtain ⟨request', hattended⟩ := hafter
              rw [ih hattended]
              rfl
          | some reply =>
              rw [hconclusion] at hafter
              obtain ⟨request', hrequest', hcompleted'⟩ := hafter
              rw [heardBy_of_completed hagrees hrequest' hcompleted']
              rfl

/-! ### From the first -/

/-- Nobody has been told anything but about requests that are there. -/
def Untold (bridge : Bridge) : Prop :=
  ∀ place, bridge.requests.length ≤ place → bridge.toldTo place = []

/-- Nobody is told anything about a request that does not exist yet. -/
theorem Move.untold {place : Nat} {bridge after : Bridge} (hmove : Move place bridge after)
    (h : bridge.Untold) : after.Untold := by
  intro q hq
  have hlength := hmove.length_le
  by_cases hne : q = place
  · subst hne
    have hnone : ∀ request : Request, bridge.requests[q]? ≠ some request := by
      intro request hrequest
      have hsize := (List.getElem?_eq_some_iff.mp hrequest).1
      omega
    cases hmove with
    | register command session halloc => exact h _ le_rfl
    | record text => exact h q (hlength.trans hq)
    | hear hrequest hopen text => exact absurd hrequest (hnone _)
    | relay hrequest hopen timeToComplete => exact absurd hrequest (hnone _)
    | retire hrequest hopen outcome => exact absurd hrequest (hnone _)
    | surroundings link running => exact h q hq
  · rw [hmove.toldTo_of_ne hne]
    exact h q (hlength.trans hq)

theorem run_untold (dialect : Dialect) (settings : Settings) (link : Link) (steps : List Step) :
    ((Bridge.new dialect settings link).run steps).Untold :=
  (run_moves (.new dialect settings link) steps).induction
    (fun _ _ _ hmove _ => hmove.untold) fun _ _ => rfl

theorem Move.settings_eq {place : Nat} {bridge after : Bridge} (hmove : Move place bridge after) :
    after.settings = bridge.settings := by
  cases hmove <;> rfl

theorem run_settings (dialect : Dialect) (settings : Settings) (link : Link) (steps : List Step) :
    ((Bridge.new dialect settings link).run steps).settings = settings.proxy :=
  (run_moves (.new dialect settings link) steps).induction
    (motive := fun bridge => bridge.settings = settings.proxy)
    (fun _ _ _ hmove _ ih => hmove.settings_eq.trans ih) rfl

/-- What is allowed for relaying can be added to every number of milliseconds. -/
theorem handlingTime?_of_ofMillis {request : Request} {millis : UInt64}
    (h : request.estimate = Span.ofMillis millis) :
    request.handlingTime? = some ⟨10000000000 + millis.toNat * 1000000⟩ := by
  have hlt := millis.toNat_lt
  have hsum : (Span.ofMillis millis).nanos + Request.margin.nanos =
      10000000000 + millis.toNat * 1000000 := Nat.add_comm _ _
  have hbound : 10000000000 + millis.toNat * 1000000 < Span.bound := by
    unfold Span.bound Span.nanosPerSecond
    omega
  rw [Request.handlingTime?, h, Span.add?, hsum, Span.ofNanos?, if_pos hbound]

/-- **How long a caller is told to wait.** A request has been made, after any history and with any
session. Whatever is done to the bridge from then on, its handling time is ten seconds more than the
milliseconds that were reported last by a keep-alive that it heard, and than those configured for its
command if none was; and its caller has been told the estimate after each of these keep-alives,
stretched, and no other time. If events are given to the request one after another, it hears the
keep-alives among them up to the first event that ends it, be it one of these or one that the session
gives it when it is told. A keep-alive reports milliseconds if its first word is digits, behind a plus
or none, that spell a number of 64 bits, and in no other case. -/
theorem run_keeps_time (dialect : Dialect) (settings : Settings) (link : Link) (steps : List Step)
    {command : Command} {session : Session} {place : Nat} {created : Bridge}
    (hcreate : ((Bridge.new dialect settings link).run steps).create command session =
      some (place, created)) :
    let configured := (settings.proxy.timeouts.lookup command.typeName).getD
      settings.proxy.defaultTimeoutMillis
    (∀ later : List Step, ∃ request, (created.run later).requests[place]? = some request ∧
      request.handlingTime? = some
        ⟨10000000000 + (lastReported configured (heardBy place created later)).toNat * 1000000⟩ ∧
      ((created.run later).timesTold place).map some =
        (estimates (.ofMillis configured) (heardBy place created later)).map Span.stretch?) ∧
    (∀ events : List Event, heardBy place created (events.map (.complete place)) =
      keepAliveTexts (session.given events)) ∧
    ∀ (text : String) (millis : UInt64), reportedMillis? text = some millis ↔
      ∃ token digits, (Text.words text.toList).head? = some token ∧
        (token = digits ∨ token = '+' :: digits) ∧ Text.IsDigits digits ∧
          Text.digitsValue digits = millis.toNat := by
  intro configured
  have hrun : created = (Bridge.new dialect settings link).run (steps ++ [.create command session]) := by
    rw [run_append, run_cons, run_nil, Bridge.step, hcreate]
  have hagrees : created.Agrees := hrun ▸ run_agrees dialect settings link _
  have htellable : created.Tellable := hrun ▸ run_tellable dialect settings link _
  have huntold := run_untold dialect settings link steps
  have hsettings := run_settings dialect settings link steps
  obtain ⟨rfl, n, registry, halloc, rfl⟩ := create_eq_some_iff.mp hcreate
  -- From here on only what has been established about the bridge before matters.
  generalize (Bridge.new dialect settings link).run steps = bridge at *
  have hfresh : (bridge.requests ++ [bridge.fresh command session n])[bridge.requests.length]? =
      some (bridge.fresh command session n) := List.getElem?_concat_length
  have hconfigured : (bridge.fresh command session n).estimate = Span.ofMillis configured := by
    rw [fresh, hsettings]
    rfl
  refine ⟨?_, ?_, fun text millis => reportedMillis?_eq_some_iff⟩
  · intro later
    have hfollows := run_follows hagrees htellable bridge.requests.length later
    obtain ⟨request, hrequest, hestimate⟩ := hfollows.estimate _ hfresh
    have htold := hfollows.told _ hfresh
    rw [hconfigured] at hestimate htold
    rw [latest_ofMillis] at hestimate
    refine ⟨request, hrequest, handlingTime?_of_ofMillis hestimate, htold.trans ?_⟩
    -- The request is new, so all that its caller is ever told is told from here on.
    have hnone : bridge.toldTo bridge.requests.length = [] := huntold _ le_rfl
    rw [timesTold]
    show List.map some ((bridge.toldTo bridge.requests.length).filterMap _) ++ _ = _
    rw [hnone]
    rfl
  · intro events
    have hattended : Attended _ bridge.requests.length _ session :=
      ⟨hagrees, hfresh, rfl, rfl, htellable _ _ hfresh⟩
    exact hattended.heardBy_events events

/-- A command with the longest time that can be configured; its far end reports a fraction, then a
quarter of a second with a plus, then a negative number, and after the end of it nine milliseconds. -/
theorem run_keeps_time_quarter :
    let events : List Event := [.ack "1.5", .action "\t+250 of it", .ack "-1", .done "OK", .ack "9"]
    let settings : Settings :=
      { proxy := { timeouts := [("STOP", 18446744073709551615)] } }
    ∃ created request,
      (Bridge.new .tcs settings {}).create .stop (.single { failsKeepAlive := fun _ => true }) =
        some (0, created) ∧
      (created.run (events.map (.complete 0))).requests[0]? = some request ∧
      request.handlingTime? = some ⟨10250000000⟩ ∧
      ((created.run (events.map (.complete 0))).timesTold 0).map some =
        [(Span.ofMillis 18446744073709551615).stretch?, some ⟨275000000⟩, some ⟨275000000⟩] := by
  intro events settings
  obtain ⟨created, hcreate⟩ : ∃ created, (Bridge.new .tcs settings {}).create .stop
      (.single { failsKeepAlive := fun _ => true }) = some (0, created) := ⟨_, rfl⟩
  obtain ⟨hrun, hevents, -⟩ := run_keeps_time .tcs settings {} [] hcreate
  obtain ⟨request, hrequest, htime, htold⟩ := hrun (events.map (.complete 0))
  rw [hevents events] at htime htold
  refine ⟨created, request, hcreate, hrequest, htime.trans ?_, htold.trans ?_⟩
  · decide +kernel
  · decide +kernel

end Bridge

end TelescopeLink
