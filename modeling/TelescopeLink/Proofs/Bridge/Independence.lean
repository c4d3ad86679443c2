import TelescopeLink.Proofs.Bridge.Stream

/-!
# Requests do not interfere

Messages for different requests may arrive in any order. What becomes of one request depends on the
messages with its number only, so two streams that have the same messages in the same order for
every number do the same to all requests, however they are interleaved (`run_independent`).

The proof keeps two bridges `Alike` for one number: the requests that have it are the same in both,
and their callers were told the same. A message with another number leaves that alone on the bridge
that gets it (`Alike.of_dispatch`), and a message with the number does the same on both
(`Alike.dispatch_same`). So a stream leads to a bridge that is alike, for any number, to the one to
which the messages with that number alone would have led (`Alike.run_filter`), and two streams with
the same messages for the number are compared through that one.

No session may submit a command meanwhile: who submits first gets the lower number, and that does
depend on the order.
-/

namespace TelescopeLink

namespace Bridge

/-! ### One request in two bridges -/

/-- Two bridges hold the same request at a place, and its caller was told the same. -/
structure AlikeAt (place : Nat) (bridge other : Bridge) : Prop where
  dialect : bridge.dialect = other.dialect
  request : bridge.requests[place]? = other.requests[place]?
  toldTo : bridge.toldTo place = other.toldTo place

theorem AlikeAt.refl (place : Nat) (bridge : Bridge) : AlikeAt place bridge bridge :=
  ⟨rfl, rfl, rfl⟩

theorem AlikeAt.symm {place : Nat} {bridge other : Bridge} (h : AlikeAt place bridge other) :
    AlikeAt place other bridge :=
  ⟨h.dialect.symm, h.request.symm, h.toldTo.symm⟩

theorem AlikeAt.trans {place : Nat} {first second third : Bridge}
    (h : AlikeAt place first second) (h' : AlikeAt place second third) :
    AlikeAt place first third :=
  ⟨h.dialect.trans h'.dialect, h.request.trans h'.request, h.toldTo.trans h'.toldTo⟩

/-- Moves about other places leave a bridge alike. -/
theorem Moves.alikeAt {touched : Nat → Prop} {bridge after : Bridge}
    (hmoves : Moves touched bridge after) {place : Nat} (hplace : ¬touched place) :
    AlikeAt place bridge after :=
  ⟨hmoves.dialect_eq.symm, (hmoves.request_of_not_touched hplace).symm,
    (hmoves.toldTo_of_not_touched hplace).symm⟩

/-- An open request at the same place of two bridges, where its session submits nothing. -/
structure Twin (place : Nat) (request : Request) (session : Session) (bridge other : Bridge) :
    Prop where
  alike : AlikeAt place bridge other
  agrees : bridge.Agrees
  agrees' : other.Agrees
  here : bridge.requests[place]? = some request
  opened : request.completed = false
  held : request.session = some session
  single : session.submits = false

namespace Twin

variable {place : Nat} {request : Request} {session : Session} {bridge other : Bridge}
  (h : Twin place request session bridge other)
include h

theorem here' : other.requests[place]? = some request :=
  h.alike.request.symm.trans h.here

theorem finish (outcome : Outcome) :
    AlikeAt place (bridge.finish place outcome).1 (other.finish place outcome).1 ∧
      (bridge.finish place outcome).2 = (other.finish place outcome).2 := by
  rw [finish_of_open h.here h.opened h.held, finish_of_open h.here' h.opened h.held]
  cases session with
  | chain conduct command next => exact absurd h.single (by simp [Session.submits])
  | single conduct =>
      rw [conclude_single, conclude_single]
      refine ⟨⟨h.alike.dialect, ?_, ?_⟩, rfl⟩
      · have hself := requests_modifyRequest_self bridge h.here Request.complete
        exact hself.trans (requests_modifyRequest_self other h.here' Request.complete).symm
      · rw [toldTo_ended, toldTo_ended, h.alike.toldTo]

theorem answer (text : String) :
    AlikeAt place (bridge.answer place text).1 (other.answer place text).1 ∧
      (bridge.answer place text).2 = (other.answer place text).2 := by
  rw [Bridge.answer, Bridge.answer, h.alike.dialect]
  exact h.finish _

/-- It stays one when it hears an estimate. -/
theorem hear (text : String) :
    Twin place (request.hear text) session (bridge.modifyRequest place (·.hear text))
      (other.modifyRequest place (·.hear text)) := by
  have hmove : Move place bridge _ := .hear h.here h.opened text
  have hmove' : Move place other _ := .hear h.here' h.opened text
  have hself := requests_modifyRequest_self bridge h.here (·.hear text)
  have hself' := requests_modifyRequest_self other h.here' (·.hear text)
  exact ⟨⟨h.alike.dialect, hself.trans hself'.symm, h.alike.toldTo⟩, hmove.agrees h.agrees,
    hmove'.agrees h.agrees', hself, h.opened, h.held, h.single⟩

/-- It stays one when its caller is told a keep-alive. -/
theorem notified (time : Span) :
    Twin place { request with keepAlives := request.keepAlives + 1 } session
      (bridge.notified place request time) (other.notified place request time) := by
  have hself := requests_notified_self bridge h.here time
  have hself' := requests_notified_self other h.here' time
  refine ⟨⟨h.alike.dialect, hself.trans hself'.symm, ?_⟩,
    (notified_move h.here h.opened time).agrees h.agrees,
    (notified_move h.here' h.opened time).agrees h.agrees', hself, h.opened, h.held, h.single⟩
  rw [toldTo_notified h.agrees h.here h.opened, toldTo_notified h.agrees' h.here' h.opened,
    h.alike.toldTo]

theorem relay (time : Span) :
    AlikeAt place (bridge.relay place request session time).1
        (other.relay place request session time).1 ∧
      (bridge.relay place request session time).2 =
        (other.relay place request session time).2 := by
  cases hconclusion : session.conduct.conclusion with
  | none =>
      rw [relay_of_alone hconclusion, relay_of_alone hconclusion]
      exact ⟨(h.notified time).alike, rfl⟩
  | some text =>
      -- In both bridges it is the request itself that the session completes.
      rw [relay_of_owner hconclusion (h.agrees.lookup h.here h.opened),
        relay_of_owner hconclusion (h.agrees'.lookup h.here' h.opened)]
      obtain ⟨halike, hfailed⟩ := (h.notified time).answer text
      exact ⟨halike, by rw [hfailed]⟩

theorem keepAlive (text : String) :
    AlikeAt place (bridge.keepAlive place request text).1
        (other.keepAlive place request text).1 ∧
      (bridge.keepAlive place request text).2 = (other.keepAlive place request text).2 := by
  rw [Bridge.keepAlive, Bridge.keepAlive]
  cases (request.hear text).estimate.stretch? with
  | none => exact ⟨(h.hear text).alike, rfl⟩
  | some time =>
      rw [relayWithin, relayWithin, (h.hear text).held]
      exact (h.hear text).relay time

/-- **Events** do the same to a request in two bridges. -/
theorem complete (event : Event) :
    AlikeAt place (bridge.complete place event).1 (other.complete place event).1 ∧
      (bridge.complete place event).2 = (other.complete place event).2 := by
  cases hterminal : event.isTerminal with
  | true =>
      rw [complete_of_terminal h.here h.opened hterminal,
        complete_of_terminal h.here' h.opened hterminal, h.alike.dialect]
      exact h.finish _
  | false =>
      rw [complete_of_keepAlive h.here h.opened hterminal,
        complete_of_keepAlive h.here' h.opened hterminal]
      exact h.keepAlive event.text

end Twin

/-! ### One number in two bridges -/

/-- The owner of a number is the only one that a message with it may touch. -/
theorem Quiet.alikeAt_dispatch {bridge : Bridge} (hquiet : bridge.Quiet) (h : bridge.Agrees)
    {message : Message} {place : Nat}
    (hother : bridge.registry.lookup message.sequence ≠ some place) :
    AlikeAt place bridge (bridge.dispatch message).1 :=
  (dispatch_moves h message).alikeAt fun hreach => hother (hquiet.eq_of_dispatchReach hreach)

/-- Two bridges have the same requests with a number, and their callers were told the same. -/
structure Alike (n : Int32) (bridge other : Bridge) : Prop where
  dialect : bridge.dialect = other.dialect
  at_place : ∀ (place : Nat) (request : Request), request.sequence = n →
    bridge.requests[place]? = some request ∨ other.requests[place]? = some request →
      AlikeAt place bridge other

namespace Alike

variable {n : Int32} {bridge other : Bridge}

theorem refl (n : Int32) (bridge : Bridge) : Alike n bridge bridge :=
  ⟨rfl, fun place _ _ _ => .refl place bridge⟩

theorem symm (halike : Alike n bridge other) : Alike n other bridge :=
  ⟨halike.dialect.symm, fun place request hn hrequest =>
    (halike.at_place place request hn hrequest.symm).symm⟩

/-- A number has the same owner in both. -/
theorem lookup_eq (halike : Alike n bridge other) (h : bridge.Agrees) (h' : other.Agrees) :
    bridge.registry.lookup n = other.registry.lookup n := by
  refine Option.ext fun place => ?_
  rw [h.owner_iff, h'.owner_iff]
  constructor
  · intro howner
    obtain ⟨request, hrequest, hopen, hn⟩ := howner
    have hplace := (halike.at_place place request hn (Or.inl hrequest)).request
    exact ⟨request, hplace.symm.trans hrequest, hopen, hn⟩
  · intro howner
    obtain ⟨request, hrequest, hopen, hn⟩ := howner
    have hplace := (halike.at_place place request hn (Or.inr hrequest)).request
    exact ⟨request, hplace.trans hrequest, hopen, hn⟩

theorem trans {third : Bridge} (halike : Alike n bridge other) (halike' : Alike n other third) :
    Alike n bridge third := by
  refine ⟨halike.dialect.trans halike'.dialect, fun place request hn hrequest => ?_⟩
  rcases hrequest with hrequest | hrequest
  · have hplace := halike.at_place place request hn (Or.inl hrequest)
    have hmiddle := hplace.request.symm.trans hrequest
    exact hplace.trans (halike'.at_place place request hn (Or.inl hmiddle))
  · have hplace := halike'.at_place place request hn (Or.inr hrequest)
    have hmiddle := hplace.request.trans hrequest
    exact (halike.at_place place request hn (Or.inr hmiddle)).trans hplace

/-- Messages are about requests that have their number, before and afterwards. -/
theorem of_dispatch (hquiet : bridge.Quiet) (h : bridge.Agrees) {message : Message}
    (hn : message.sequence ≠ n) : Alike n bridge (bridge.dispatch message).1 := by
  have hmoves := dispatch_moves h message
  refine ⟨hmoves.dialect_eq.symm, fun place request hsequence hrequest => ?_⟩
  refine hquiet.alikeAt_dispatch h fun howner => ?_
  obtain ⟨owner, hplace, -, howner⟩ := (h.owner_iff _ _).mp howner
  rcases hrequest with hrequest | hrequest
  · obtain rfl := Option.some.inj (hplace.symm.trans hrequest)
    exact hn (howner.symm.trans hsequence)
  · obtain ⟨before, hbefore, hprogress⟩ :=
      hmoves.exists_before (fun _ => hquiet.lt_of_dispatchReach h) hrequest
    obtain rfl := Option.some.inj (hplace.symm.trans hbefore)
    exact hn (howner.symm.trans (hprogress.sequence.symm.trans hsequence))

variable (halike : Alike n bridge other) (hquiet : bridge.Quiet) (h : bridge.Agrees)
  (hquiet' : other.Quiet) (h' : other.Agrees)
include halike hquiet h hquiet' h'

/-- **A message with the number** does the same on both. -/
theorem dispatch_same {message : Message} (hn : message.sequence = n) :
    Alike n (bridge.dispatch message).1 (other.dispatch message).1 ∧
      (bridge.dispatch message).2 = (other.dispatch message).2 := by
  subst hn
  have hlookup := halike.lookup_eq h h'
  cases hevent : Event.ofMessage? message with
  | none =>
      rw [dispatch_of_no_event hevent, dispatch_of_no_event hevent]
      exact ⟨halike, rfl⟩
  | some event =>
      cases howner : bridge.registry.lookup message.sequence with
      | none =>
          rw [dispatch_of_no_owner hevent howner,
            dispatch_of_no_owner hevent (hlookup.symm.trans howner)]
          exact ⟨halike, rfl⟩
      | some owner =>
          have howner' := hlookup.symm.trans howner
          obtain ⟨request, hrequest, hopen, hsequence⟩ := (h.owner_iff _ _).mp howner
          obtain ⟨session, hsession⟩ := h.session_of_open hrequest hopen
          have hsingle := hquiet owner session ((sessionAt_eq hrequest).trans hsession)
          -- The owner is the same request on both, so the event does the same to it.
          have htwin : Twin owner request session bridge other :=
            ⟨halike.at_place owner request hsequence (Or.inl hrequest), h, h', hrequest, hopen,
              hsession, hsingle⟩
          obtain ⟨hplace, hfailed⟩ := htwin.complete event
          have hdispatch := dispatch_of_owner hevent howner
          have hdispatch' := dispatch_of_owner hevent howner'
          refine ⟨⟨?_, fun place request' hn hrequest' => ?_⟩, ?_⟩
          · rw [hdispatch, hdispatch']
            exact hplace.dialect
          · by_cases heq : place = owner
            · subst heq
              rw [hdispatch, hdispatch']
              exact hplace
            · -- Another request with the number is over, and out of reach on both.
              have hleft : AlikeAt place bridge (bridge.dispatch message).1 :=
                hquiet.alikeAt_dispatch h (by simp [howner, Ne.symm heq])
              have hright : AlikeAt place other (other.dispatch message).1 :=
                hquiet'.alikeAt_dispatch h' (by simp [howner', Ne.symm heq])
              rw [← hleft.request, ← hright.request] at hrequest'
              exact (hleft.symm.trans (halike.at_place place request' hn hrequest')).trans hright
          · rw [hdispatch, hdispatch', hfailed]

end Alike

/-! ### Streams -/

/-- What becomes of messages that are dispatched one after another. -/
def results (bridge : Bridge) : List Message → List (Message × Dispatched)
  | [] => []
  | message :: rest =>
    (message, (bridge.dispatch message).2) :: (bridge.dispatch message).1.results rest

/-- **The messages with a number** do to its requests what they would do without all others. -/
theorem Alike.run_filter {n : Int32} {bridge other : Bridge} (halike : Alike n bridge other)
    (hquiet : bridge.Quiet) (h : bridge.Agrees) (hquiet' : other.Quiet) (h' : other.Agrees)
    (messages : List Message) :
    Alike n (bridge.run (messages.map .dispatch))
        (other.run ((messages.filter (·.sequence = n)).map .dispatch)) ∧
      (bridge.results messages).filter (·.1.sequence = n) =
        other.results (messages.filter (·.sequence = n)) := by
  induction messages generalizing bridge other with
  | nil => exact ⟨halike, rfl⟩
  | cons message messages ih =>
      have hquietNext := hquiet.dispatch h message
      have hnext := (dispatch_moves h message).agrees h
      rw [run_dispatch_cons, results]
      -- A message with another number is taken in on one side only, and leaves that side as it was.
      by_cases hn : message.sequence = n
      · obtain ⟨halikeNext, hresult⟩ := halike.dispatch_same hquiet h hquiet' h' hn
        obtain ⟨hrun, hresults⟩ := ih halikeNext hquietNext hnext (hquiet'.dispatch h' message)
          ((dispatch_moves h' message).agrees h')
        rw [List.filter_cons_of_pos (by simpa using hn),
          List.filter_cons_of_pos (by simpa using hn), run_dispatch_cons, results, hresult, hresults]
        exact ⟨hrun, rfl⟩
      · rw [List.filter_cons_of_neg (by simpa using hn),
          List.filter_cons_of_neg (by simpa using hn)]
        exact ih ((Alike.of_dispatch hquiet h hn).symm.trans halike) hquietNext hnext hquiet' h'

/-- After a stream, what is at the place of a request depends on the messages with its number
only. -/
theorem Quiet.run_alikeAt {bridge : Bridge} (hquiet : bridge.Quiet) (h : bridge.Agrees)
    {messages messages' : List Message}
    (hsame : ∀ n, messages.filter (·.sequence = n) = messages'.filter (·.sequence = n))
    (place : Nat) :
    AlikeAt place (bridge.run (messages.map .dispatch)) (bridge.run (messages'.map .dispatch)) := by
  have hmoves := hquiet.run_moves h messages
  have hmoves' := hquiet.run_moves h messages'
  cases hrequest : bridge.requests[place]? with
  | none =>
      have hlt : ¬place < bridge.requests.length := by simpa using hrequest
      exact (hmoves.alikeAt hlt).symm.trans (hmoves'.alikeAt hlt)
  | some request =>
      obtain ⟨request', hrequest', hprogress⟩ := hmoves.progress hrequest
      obtain ⟨hleft, -⟩ :=
        (Alike.refl request.sequence bridge).run_filter hquiet h hquiet h messages
      obtain ⟨hright, -⟩ :=
        (Alike.refl request.sequence bridge).run_filter hquiet h hquiet h messages'
      rw [← hsame] at hright
      exact (hleft.trans hright.symm).at_place place request' hprogress.sequence (Or.inl hrequest')

/-- **Requests do not interfere**, on every bridge that a run can lead to and as long as no caller
submits anything in its callbacks. Two streams that have the same messages in the same order for
every number end with the same owner of every number, the same counter and the same requests, with
the same told to every caller, and the messages with any number have the same results. A message
changes nothing of a request that does not own its number, and no other number's owner. -/
theorem run_independent (dialect : Dialect) (settings : Settings) (link : Link) (steps : List Step)
    (hquiet : ((Bridge.new dialect settings link).run steps).Quiet)
    {messages messages' : List Message}
    (hsame : ∀ n, messages.filter (·.sequence = n) = messages'.filter (·.sequence = n)) :
    let bridge := (Bridge.new dialect settings link).run steps
    let after := bridge.run (messages.map .dispatch)
    let after' := bridge.run (messages'.map .dispatch)
    (∀ n, after.registry.lookup n = after'.registry.lookup n) ∧
    after.registry.last = after'.registry.last ∧
    after.requests = after'.requests ∧
    (∀ place, after.toldTo place = after'.toldTo place) ∧
    (∀ n, (bridge.results messages).filter (·.1.sequence = n) =
      (bridge.results messages').filter (·.1.sequence = n)) ∧
    ∀ message,
      (∀ place, bridge.registry.lookup message.sequence ≠ some place →
        (bridge.dispatch message).1.requests[place]? = bridge.requests[place]? ∧
          (bridge.dispatch message).1.toldTo place = bridge.toldTo place) ∧
      ∀ n, message.sequence ≠ n →
        (bridge.dispatch message).1.registry.lookup n = bridge.registry.lookup n := by
  intro bridge after after'
  have h : bridge.Agrees := run_agrees dialect settings link steps
  have hmoves := hquiet.run_moves h messages
  have hmoves' := hquiet.run_moves h messages'
  have hplaces : ∀ place, AlikeAt place after after' := hquiet.run_alikeAt h hsame
  -- Each stream is compared with the stream of the messages for one number, which is the same.
  have hfilter := fun n => (Alike.refl n bridge).run_filter hquiet h hquiet h messages
  have hfilter' := fun n => (Alike.refl n bridge).run_filter hquiet h hquiet h messages'
  refine ⟨fun n => ?_, ?_, ?_, fun place => (hplaces place).toldTo, fun n => ?_, fun message => ?_⟩
  · have hleft := (hfilter n).1
    rw [hsame] at hleft
    exact (hleft.trans (hfilter' n).1.symm).lookup_eq (hmoves.agrees h) (hmoves'.agrees h)
  · exact (hmoves.last_eq fun _ => id).trans (hmoves'.last_eq fun _ => id).symm
  · exact List.ext_getElem? fun place => (hplaces place).request
  · rw [(hfilter n).2, (hfilter' n).2, hsame]
  · refine ⟨fun place hother => ?_, fun n hn => ?_⟩
    · have halike := hquiet.alikeAt_dispatch h hother
      exact ⟨halike.request.symm, halike.toldTo.symm⟩
    · have halike := Alike.of_dispatch hquiet h hn
      exact (halike.lookup_eq h ((dispatch_moves h message).agrees h)).symm

/-- The outcome of the first of two requests before or after a keep-alive of the second. -/
theorem run_independent_swapped :
    let bridge := (Bridge.new .tcs {} {}).run
      [.create .stop (.single {}), .create .stop (.single {})]
    let done : Message := ⟨1, 17, 5, 1, 1, "OK 7"⟩
    let ack : Message := ⟨1, 17, 3, 1, 2, "5000"⟩
    (bridge.run ([done, ack].map .dispatch)).requests =
        (bridge.run ([ack, done].map .dispatch)).requests ∧
      (bridge.run ([done, ack].map .dispatch)).log ≠
        (bridge.run ([ack, done].map .dispatch)).log := by
  intro bridge done ack
  have hquiet : bridge.Quiet := .of_all (by decide +kernel)
  have hsame : ∀ n : Int32,
      [done, ack].filter (·.sequence = n) = [ack, done].filter (·.sequence = n) := by
    intro n
    by_cases hdone : done.sequence = n
    · have hack : ack.sequence ≠ n := hdone ▸ by decide
      simp [hdone, hack]
    · by_cases hack : ack.sequence = n <;> simp [hdone, hack]
  obtain ⟨-, -, hrequests, -, -, -⟩ := run_independent .tcs {} {}
    [.create .stop (.single {}), .create .stop (.single {})] hquiet hsame
  exact ⟨hrequests, by decide +kernel⟩

end Bridge

end TelescopeLink
