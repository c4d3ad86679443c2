import TelescopeLink.Proofs.Bridge.Stream

/-!
# What goes on the wire

Only `send` transmits. Each call puts the datagram of its request on the link, if the dialect has
words for the command and the link takes them (`posted?`); events put nothing on the link.

How far the request has come plays no part. A request that is sent again is transmitted again, and
so is one that is over, under a number which may belong to another request by then
(`send_after_outcome`). What keeps the wire free of such datagrams is that `submit` calls `send`
once, right behind `create`; `send` itself has no guard. So the statement for all histories counts
calls: the link carries exactly what each call puts on it (`run_transmits`).
-/

namespace TelescopeLink

namespace Link

/-- The link when these datagrams were sent over it. -/
def post (link : Link) (datagrams : List Datagram) : Link :=
  { link with sent := link.sent ++ datagrams }

@[simp] theorem post_nil (link : Link) : link.post [] = link := by
  simp [post]

@[simp] theorem post_post (link : Link) (datagrams later : List Datagram) :
    (link.post datagrams).post later = link.post (datagrams ++ later) := by
  simp [post]

/-- The link takes a datagram. -/
def takes (link : Link) (bytes : Datagram) : Bool :=
  link.bound && (link.objection? bytes).isNone

/-- A datagram that the link takes goes behind those that were sent before. -/
theorem send_of_takes {link : Link} {bytes : Datagram} (h : link.takes bytes = true) :
    link.send bytes = .ok (link.post [bytes]) := by
  obtain ⟨hbound, hobjection⟩ := Bool.and_eq_true_iff.mp h
  rw [send, if_neg (by simp [hbound]), Option.isNone_iff_eq_none.mp hobjection]
  rfl

theorem send_of_not_takes {link : Link} {bytes : Datagram} (h : link.takes bytes = false) :
    ∃ error, link.send bytes = .error error := by
  rw [send]
  cases hbound : link.bound with
  | false => exact ⟨_, rfl⟩
  | true =>
      cases hobjection : link.objection? bytes with
      | some fault => exact ⟨_, rfl⟩
      | none => simp [takes, hbound, hobjection] at h

end Link

namespace Bridge

/-- What sending the request at a place puts on the link. -/
def posted? (bridge : Bridge) (place : Nat) : Option Datagram :=
  bridge.requests[place]?.bind fun request =>
    match bridge.dialect.render request.command with
    | .ok (some text) =>
      if bridge.link.takes (bridge.datagram request text) then some (bridge.datagram request text)
      else none
    | _ => none

/-- What a step puts on the link, if it is not a submission. -/
def posts (bridge : Bridge) : Step → List Datagram
  | .send place => (bridge.posted? place).toList
  | _ => []

/-- The step is about a request that is there: it is sent, or it hears of an event. -/
def Step.onRequest : Step → Bool
  | .send _ | .complete _ _ | .dispatch _ => true
  | _ => false

/-- The step sends the request at a place. -/
def Step.sends (place : Nat) : Step → Bool
  | .send q => q == place
  | _ => false

/-- A datagram goes out for a request that is there, that has words, and whose words the link takes.
-/
theorem posted?_eq_some_iff {bridge : Bridge} {place : Nat} {bytes : Datagram} :
    bridge.posted? place = some bytes ↔
      ∃ request text, bridge.requests[place]? = some request ∧
        bridge.dialect.render request.command = .ok (some text) ∧
        bridge.datagram request text = bytes ∧ bridge.link.takes bytes = true := by
  rw [posted?, Option.bind_eq_some_iff]
  constructor
  · intro h
    obtain ⟨request, hrequest, hposted⟩ := h
    split at hposted
    · rename_i text hrender
      split at hposted
      · rename_i htakes
        obtain rfl := Option.some.inj hposted
        exact ⟨request, text, hrequest, hrender, rfl, htakes⟩
      · exact absurd hposted (by simp)
    · exact absurd hposted (by simp)
  · intro h
    obtain ⟨request, text, hrequest, hrender, rfl, htakes⟩ := h
    refine ⟨request, hrequest, ?_⟩
    rw [hrender]
    exact if_pos htakes

theorem length_posts_le (bridge : Bridge) (step : Step) : (bridge.posts step).length ≤ 1 := by
  cases step with
  | send place => exact Option.length_toList_le
  | _ => exact Nat.zero_le 1

/-! ### One step -/

namespace Quiet

variable {bridge : Bridge} (hquiet : bridge.Quiet) (h : bridge.Agrees)
include hquiet h

theorem finish_link (place : Nat) (outcome : Outcome) :
    (bridge.finish place outcome).1.link = bridge.link := by
  cases hrequest : bridge.requests[place]? with
  | none => rw [finish_of_none hrequest]
  | some request =>
      cases hopen : request.completed with
      | true => rw [finish_of_completed hrequest hopen]
      | false =>
          obtain ⟨session, hsession⟩ := h.session_of_open hrequest hopen
          have hsingle := hquiet place session ((sessionAt_eq hrequest).trans hsession)
          rw [finish_of_open hrequest hopen hsession]
          cases session with
          | single conduct => rfl
          | chain conduct command next => exact absurd hsingle (by simp [Session.submits])

/-- A move about a request that is there leaves the bridge quiet and in agreement. -/
theorem of_move {place : Nat} {after : Bridge} (hplace : place < bridge.requests.length)
    (hmove : Move place bridge after) : after.Quiet ∧ after.Agrees := by
  have hmoves : Moves (· = place) bridge after := .single rfl hmove
  refine ⟨hquiet.of_moves hmoves ?_, hmove.agrees h⟩
  rintro q rfl
  exact hplace

theorem relay_link {place : Nat} {request : Request} {session : Session}
    (hrequest : bridge.requests[place]? = some request) (hopen : request.completed = false)
    (time : Span) : (bridge.relay place request session time).1.link = bridge.link := by
  cases hconclusion : session.conduct.conclusion with
  | none =>
      rw [relay_of_alone hconclusion]
      rfl
  | some text =>
      have hlt := (List.getElem?_eq_some_iff.mp hrequest).1
      obtain ⟨hquiet', h'⟩ := hquiet.of_move h hlt (notified_move hrequest hopen time)
      rw [relay_of_owner hconclusion (h.lookup hrequest hopen)]
      exact hquiet'.finish_link h' place _

theorem keepAlive_link {place : Nat} {request : Request}
    (hrequest : bridge.requests[place]? = some request) (hopen : request.completed = false)
    (text : String) : (bridge.keepAlive place request text).1.link = bridge.link := by
  rw [keepAlive]
  cases (request.hear text).estimate.stretch? with
  | none => rfl
  | some time =>
      rw [relayWithin]
      split
      · rfl
      · have hlt := (List.getElem?_eq_some_iff.mp hrequest).1
        obtain ⟨hquiet', h'⟩ := hquiet.of_move h hlt (.hear hrequest hopen text)
        have hself := requests_modifyRequest_self bridge hrequest (·.hear text)
        exact hquiet'.relay_link h' hself hopen time

/-- **Events** put nothing on the link. -/
theorem complete_link (place : Nat) (event : Event) :
    (bridge.complete place event).1.link = bridge.link := by
  cases hrequest : bridge.requests[place]? with
  | none => rw [complete_of_none hrequest]
  | some request =>
      cases hopen : request.completed with
      | true => rw [complete_of_completed hrequest hopen]
      | false =>
          cases hterminal : event.isTerminal with
          | true =>
              rw [complete_of_terminal hrequest hopen hterminal]
              exact hquiet.finish_link h place _
          | false =>
              rw [complete_of_keepAlive hrequest hopen hterminal]
              exact hquiet.keepAlive_link h hrequest hopen event.text

theorem dispatch_link (message : Message) :
    (bridge.dispatch message).1.link = bridge.link := by
  cases hevent : Event.ofMessage? message with
  | none => rw [dispatch_of_no_event hevent]
  | some event =>
      cases howner : bridge.registry.lookup message.sequence with
      | none => rw [dispatch_of_no_owner hevent howner]
      | some place =>
          rw [dispatch_of_owner hevent howner]
          exact hquiet.complete_link h place event

/-- **Sending** puts the datagram of the request on the link, wherever the request is. -/
theorem send_link (place : Nat) :
    (bridge.send place).1.link = bridge.link.post (bridge.posted? place).toList := by
  rw [send]
  cases hrequest : bridge.requests[place]? with
  | none =>
      have hposted : bridge.posted? place = none := by simp [posted?, hrequest]
      rw [hposted]
      exact (Link.post_nil bridge.link).symm
  | some request =>
      dsimp only
      have hlt := (List.getElem?_eq_some_iff.mp hrequest).1
      -- Only words that the link takes go out, and no callback puts anything on the link.
      cases hrender : bridge.dialect.render request.command with
      | error refusal =>
          rw [attempt_of_refused hrender]
          have hposted : bridge.posted? place = none := by simp [posted?, hrequest, hrender]
          rw [hposted]
          exact (hquiet.finish_link h place _).trans (Link.post_nil bridge.link).symm
      | ok text? =>
          cases text? with
          | none =>
              rw [attempt_of_wordless hrender]
              have hposted : bridge.posted? place = none := by simp [posted?, hrequest, hrender]
              rw [hposted]
              exact (hquiet.finish_link h place _).trans (Link.post_nil bridge.link).symm
          | some text =>
              cases htakes : bridge.link.takes (bridge.datagram request text) with
              | true =>
                  rw [attempt_of_sent hrender (Link.send_of_takes htakes)]
                  have hposted : bridge.posted? place = some (bridge.datagram request text) :=
                    posted?_eq_some_iff.mpr ⟨request, text, hrequest, hrender, rfl, htakes⟩
                  rw [hposted]
                  rfl
              | false =>
                  obtain ⟨error, herror⟩ := Link.send_of_not_takes htakes
                  rw [attempt_of_unsent hrender herror]
                  have hposted : bridge.posted? place = none := by
                    simp [posted?, hrequest, hrender, htakes]
                  obtain ⟨hquiet', h'⟩ := hquiet.of_move h hlt (.record text)
                  rw [hposted]
                  exact (hquiet'.finish_link h' place _).trans (Link.post_nil bridge.link).symm

theorem step_link {step : Step} (hstep : step.onRequest = true) :
    (bridge.step step).1.link = bridge.link.post (bridge.posts step) := by
  cases step with
  | send place => exact hquiet.send_link h place
  | complete place event =>
      exact (hquiet.complete_link h place event).trans (Link.post_nil bridge.link).symm
  | dispatch message =>
      exact (hquiet.dispatch_link h message).trans (Link.post_nil bridge.link).symm
  | _ => exact absurd hstep (by simp [Step.onRequest])

/-- Such a step is about requests that are there. -/
theorem step_moves {step : Step} (hstep : step.onRequest = true) :
    Moves (· < bridge.requests.length) bridge (bridge.step step).1 := by
  -- At a place where no request is, nothing happens.
  have hreach : ∀ {place q : Nat} {request : Request}, bridge.requests[place]? = some request →
      Reach (bridge.sessionAt place) place bridge.requests.length q →
        q < bridge.requests.length := by
    intro place q request hrequest hq
    rw [hquiet.eq_of_reach hq]
    exact (List.getElem?_eq_some_iff.mp hrequest).1
  cases step with
  | send place =>
      show Moves _ bridge (bridge.send place).1
      cases hrequest : bridge.requests[place]? with
      | none =>
          rw [send, hrequest]
          exact .refl bridge
      | some request => exact (send_moves h place).mono fun _ => hreach hrequest
  | complete place event =>
      show Moves _ bridge (bridge.complete place event).1
      cases hrequest : bridge.requests[place]? with
      | none =>
          rw [complete_of_none hrequest]
          exact .refl bridge
      | some request => exact (complete_moves h place event).mono fun _ => hreach hrequest
  | dispatch message => exact (dispatch_moves h message).mono fun _ => hquiet.lt_of_dispatchReach h
  | _ => exact absurd hstep (by simp [Step.onRequest])

/-- What sending a request puts on the link stays the same, whatever happens to the request. -/
theorem posted?_step {step : Step} (hstep : step.onRequest = true) (place : Nat) :
    (bridge.step step).1.posted? place = bridge.posted? place := by
  have hmoves := hquiet.step_moves h hstep
  have hlink := hquiet.step_link h hstep
  -- A datagram is made of what never changes about a bridge and its request.
  have hdatagram : ∀ {request request' : Request} (text : String),
      request'.sequence = request.sequence →
        (bridge.step step).1.datagram request' text = bridge.datagram request text := by
    intro request request' text hsequence
    simp only [datagram, commandMessage, hmoves.endpoint_eq, hmoves.clock_eq, hsequence]
  cases hrequest : bridge.requests[place]? with
  | none =>
      have hrequest' : (bridge.step step).1.requests[place]? = none := by
        rw [hmoves.request_of_not_touched (by simpa using hrequest), hrequest]
      rw [posted?, posted?, hrequest, hrequest']
      rfl
  | some request =>
      obtain ⟨request', hrequest', hprogress⟩ := hmoves.progress hrequest
      rw [posted?, posted?, hrequest, hrequest', Option.bind_some, Option.bind_some,
        hprogress.command, hmoves.dialect_eq]
      simp only [hdatagram _ hprogress.sequence, hlink]
      rfl

end Quiet

/-! ### Histories -/

/-- What a history puts on the link is what each of its steps would put on it at once. -/
theorem Quiet.run_link {bridge : Bridge} (hquiet : bridge.Quiet) (h : bridge.Agrees)
    {steps : List Step} (hsteps : ∀ step ∈ steps, step.onRequest = true) :
    (bridge.run steps).link = bridge.link.post (steps.flatMap bridge.posts) := by
  induction steps generalizing bridge with
  | nil => simp
  | cons step steps ih =>
      have hstep := hsteps step List.mem_cons_self
      have hmoves := hquiet.step_moves h hstep
      have hposts : (bridge.step step).1.posts = bridge.posts := by
        funext later
        cases later with
        | send place =>
            show ((bridge.step step).1.posted? place).toList = (bridge.posted? place).toList
            rw [hquiet.posted?_step h hstep]
        | _ => rfl
      have hrest := ih (hquiet.of_moves hmoves fun _ => id) (hmoves.agrees h)
        fun later hlater => hsteps later (List.mem_cons_of_mem step hlater)
      rw [run_cons, hrest, hposts, hquiet.step_link h hstep, List.flatMap_cons, Link.post_post]

/-- A request puts no more datagrams on the link than it is sent. -/
theorem length_flatMap_posts_le (bridge : Bridge) (place : Nat) (steps : List Step) :
    ((steps.filter (Step.sends place)).flatMap bridge.posts).length ≤
      steps.countP (Step.sends place) := by
  rw [List.countP_eq_length_filter]
  induction steps.filter (Step.sends place) with
  | nil => exact le_rfl
  | cons step rest ih =>
      have hstep := length_posts_le bridge step
      rw [List.flatMap_cons, List.length_append, List.length_cons]
      omega

/-- **What goes on the wire**, on every bridge that a run can lead to and as long as no caller
submits anything in its callbacks: of the steps on its requests, each call of `send` puts the
datagram of its request on the link, if the dialect has words for the command and the link takes
them, and no event puts anything there. So a request that is sent once puts at most one datagram
there, and one that is not sent any more puts none; but whether it was sent before or is over makes
no difference. -/
theorem run_transmits (dialect : Dialect) (settings : Settings) (link : Link) (steps : List Step)
    (hquiet : ((Bridge.new dialect settings link).run steps).Quiet) {later : List Step}
    (hlater : ∀ step ∈ later, step.onRequest = true) :
    let bridge := (Bridge.new dialect settings link).run steps
    (bridge.run later).link = bridge.link.post (later.flatMap bridge.posts) ∧
      (∀ place bytes, bridge.posts (.send place) = [bytes] ↔
        ∃ request text, bridge.requests[place]? = some request ∧
          dialect.render request.command = .ok (some text) ∧
          bridge.datagram request text = bytes ∧ bridge.link.takes bytes = true) ∧
      (∀ place event, bridge.posts (.complete place event) = []) ∧
      (∀ message, bridge.posts (.dispatch message) = []) ∧
      ∀ place, ((later.filter (Step.sends place)).flatMap bridge.posts).length ≤
        later.countP (Step.sends place) := by
  intro bridge
  have h : bridge.Agrees := run_agrees dialect settings link steps
  have hdialect : bridge.dialect = dialect :=
    (Bridge.run_moves (.new dialect settings link) steps).dialect_eq
  refine ⟨hquiet.run_link h hlater, fun place bytes => ?_, fun _ _ => rfl, fun _ => rfl,
    fun place => length_flatMap_posts_le bridge place later⟩
  rw [← hdialect, ← posted?_eq_some_iff]
  show (bridge.posted? place).toList = [bytes] ↔ _
  cases bridge.posted? place <;> simp

/-- A request that was created and ended before it is sent for the first time goes on the wire
nevertheless, and twice if it is sent twice. -/
theorem run_transmits_ended :
    let bridge := (Bridge.new .tcs {} {}).run
      [.create .stop (.single {}), .dispatch ⟨1, 17, 5, 1, 1, "OK"⟩]
    (bridge.run [.send 0, .send 0]).link.sent.length = 2 := by
  intro bridge
  have hquiet : bridge.Quiet := .of_all (by decide +kernel)
  have hlater : ∀ step ∈ [Step.send 0, .send 0], step.onRequest = true := by
    simp [Step.onRequest]
  obtain ⟨hlink, -⟩ := run_transmits .tcs {} {}
    [.create .stop (.single {}), .dispatch ⟨1, 17, 5, 1, 1, "OK"⟩] hquiet hlater
  rw [hlink]
  decide +kernel

/-- A request that is over is not inert on the wire: its outcome arrives between `create` and
`send`, and it is transmitted after its caller was told that it is over. -/
theorem send_after_outcome :
    let bridge := (Bridge.new .tcs {} {}).run
      [.create .stop (.single {}), .dispatch ⟨1, 17, 5, 1, 1, "OK"⟩]
    bridge.requests.map (·.state) = [.completed] ∧ bridge.link.sent = [] ∧
      (bridge.run [.send 0]).link.sent.length = 1 := by
  decide +kernel

end Bridge

end TelescopeLink
