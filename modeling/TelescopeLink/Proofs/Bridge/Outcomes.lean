import TelescopeLink.Proofs.Bridge.Stream
import TelescopeLink.Proofs.Dialect.Reply
import TelescopeLink.Proofs.Waiting

/-!
# What callers are told at the end

All outcomes that leave the bridge are well formed, whichever way a request comes to its end: replies
of any text are (`Dialect.wellFormed_verdict`), what does not reach the wire fails with a code of this
side or is a success without values (`attempt_outcome`), and nothing else ends a request. Each
operation tells such outcomes only (`WellTold`), so a run does, and a wait that is given up adds one
more of the kind (`run_outcomes_wellFormed`).

The code of an outcome says where it comes from as far as the far end leaves it alone. A timeout of
the far end is told as one, and so is every code that the far end writes, also those that stand for
what went wrong on this side (`run_cites_codes`, `reserved_codes_cited`).
-/

namespace TelescopeLink

open Text

namespace Dialect

/-! ### Events -/

/-- An event tells what its text says as a reply, or that an error is no success. -/
theorem verdict_cases (dialect : Dialect) (event : Event) :
    dialect.verdict event = dialect.reply event.text ∨
      (dialect.reply event.text).success = true ∧
        ∃ message, dialect.verdict event = .failed Outcome.farEndError message := by
  cases event with
  | error text =>
      rw [verdict]
      split
      · rename_i hsuccess
        exact Or.inr ⟨hsuccess, _, rfl⟩
      · exact Or.inl rfl
  | _ => exact Or.inl rfl

/-- Events tell well-formed outcomes. -/
theorem wellFormed_verdict (dialect : Dialect) (event : Event) :
    (dialect.verdict event).WellFormed := by
  rcases dialect.verdict_cases event with h | ⟨-, message, h⟩
  · rw [h]
    exact dialect.wellFormed_reply event.text
  · rw [h]
    exact Outcome.wellFormed_failed (by decide) message

/-- **An error is a failure**, whatever its text. -/
theorem success_verdict_error (dialect : Dialect) (text : String) :
    (dialect.verdict (.error text)).success = false := by
  rw [verdict]
  split
  · rfl
  · rename_i hfailure
    simpa using hfailure

/-- That an error is no success gives no other code than the one for this. -/
theorem code_verdict_eq_iff {dialect : Dialect} {event : Event} {code : Int32} (hcode : code ≠ 0)
    (herror : code ≠ Outcome.farEndError) :
    (dialect.verdict event).code = code ↔ (dialect.reply event.text).code = code := by
  rcases dialect.verdict_cases event with h | ⟨hsuccess, message, h⟩
  · rw [h]
  · have hzero := (dialect.wellFormed_reply event.text).success_iff.mp hsuccess
    rw [h, hzero]
    exact iff_of_false herror.symm hcode.symm

end Dialect

namespace Bridge

/-! ### Outcomes of attempts -/

/-- A request that does not reach the wire has no words, or was refused on this side. -/
theorem attempt_outcome {bridge sent : Bridge} {place : Nat} {request : Request}
    {outcome : Outcome} (h : bridge.attempt place request = (sent, some outcome)) :
    outcome = .ok [] ∨ ∃ code ∈ [Outcome.translationFailed, Outcome.transmitFailed],
      ∃ message, outcome = .failed code message := by
  have hsecond := congrArg Prod.snd h
  cases hrender : bridge.dialect.render request.command with
  | error refusal =>
      rw [attempt_of_refused hrender] at hsecond
      exact Or.inr ⟨Outcome.translationFailed, by simp, _, (Option.some.inj hsecond).symm⟩
  | ok text? =>
      cases text? with
      | none =>
          rw [attempt_of_wordless hrender] at hsecond
          exact Or.inl (Option.some.inj hsecond).symm
      | some text =>
          cases hlink : bridge.link.send (bridge.datagram request text) with
          | ok link =>
              rw [attempt_of_sent hrender hlink] at hsecond
              exact absurd hsecond (by simp)
          | error error =>
              rw [attempt_of_unsent hrender hlink] at hsecond
              exact Or.inr ⟨Outcome.transmitFailed, by simp, _, (Option.some.inj hsecond).symm⟩

theorem wellFormed_of_attempt {bridge sent : Bridge} {place : Nat} {request : Request}
    {outcome : Outcome} (h : bridge.attempt place request = (sent, some outcome)) :
    outcome.WellFormed := by
  rcases attempt_outcome h with rfl | ⟨code, hcode, message, rfl⟩
  · exact Outcome.wellFormed_nil
  · refine Outcome.wellFormed_failed ?_ message
    rintro rfl
    exact absurd hcode (by decide)

/-! ### What operations tell -/

/-- All outcomes that callers were told are well formed. -/
def WellTold (bridge : Bridge) : Prop :=
  ∀ callback ∈ bridge.log, ∀ outcome, callback.notice = .done outcome → outcome.WellFormed

namespace WellTold

variable {bridge : Bridge} (h : bridge.WellTold)
include h

theorem of_log_eq {after : Bridge} (hlog : after.log = bridge.log) : after.WellTold := by
  rw [WellTold, hlog]
  exact h

theorem attempt (place : Nat) (request : Request) : (bridge.attempt place request).1.WellTold :=
  h.of_log_eq (attempt_log bridge place request)

theorem create {after : Bridge} {place : Nat} {command : Command} {session : Session}
    (hcreate : bridge.create command session = some (place, after)) : after.WellTold := by
  obtain ⟨-, n, registry, -, rfl⟩ := create_eq_some_iff.mp hcreate
  exact h

/-- One more callback. -/
theorem tell (place : Nat) (request : Request) {notice : Notice}
    (hnotice : ∀ outcome, notice = .done outcome → outcome.WellFormed) :
    (bridge.tell place request notice).WellTold := by
  intro callback hcallback outcome hdone
  rw [log_tell] at hcallback
  rcases List.mem_append.mp hcallback with hbefore | hnew
  · exact h callback hbefore outcome hdone
  · rw [List.mem_singleton.mp hnew] at hdone
    exact hnotice outcome hdone

theorem ended (place : Nat) (request : Request) {outcome : Outcome}
    (houtcome : outcome.WellFormed) (halts : Bool) :
    (bridge.ended place request outcome halts).WellTold := by
  have hretired : (bridge.retire place request).WellTold := h
  refine hretired.tell place request ?_
  intro told htold
  exact Notice.done.inj htold ▸ houtcome

theorem notified (place : Nat) (request : Request) (time : Span) :
    (bridge.notified place request time).WellTold := by
  have hcounted : (bridge.modifyRequest place
      ({ · with keepAlives := request.keepAlives + 1 })).WellTold := h
  exact hcounted.tell place request (by simp)

/-- The end of a request, with all that its session submits when it is told. -/
theorem conclude (session : Session) (place : Nat) (request : Request) {outcome : Outcome}
    (houtcome : outcome.WellFormed) :
    (conclude session bridge place request outcome).1.WellTold := by
  -- Along the chain of what the session submits: each command is told its own outcome.
  induction session generalizing bridge place request outcome with
  | single conduct => exact h.ended place request houtcome conduct.halts
  | chain conduct command next ih =>
      have hended := h.ended place request houtcome conduct.halts
      rw [conclude_chain]
      split
      · exact hended
      · rename_i place' created hcreate
        have hcreated := hended.create hcreate
        split
        · exact hcreated
        · rename_i request' hrequest'
          have hattempt := hcreated.attempt place' request'
          split
          · rename_i sent hsent
            rw [hsent] at hattempt
            exact hattempt
          · rename_i sent outcome' hsent
            rw [hsent] at hattempt
            exact ih hattempt place' request' (wellFormed_of_attempt hsent)

theorem finish (place : Nat) {outcome : Outcome} (houtcome : outcome.WellFormed) :
    (bridge.finish place outcome).1.WellTold := by
  rw [Bridge.finish]
  split
  · exact h
  · rename_i request hrequest
    split
    · exact h
    · split
      · exact h.conclude _ place request houtcome
      · exact h

theorem send (place : Nat) : (bridge.send place).1.WellTold := by
  rw [Bridge.send]
  split
  · exact h
  · rename_i request hrequest
    have hattempt := h.attempt place request
    split
    · rename_i sent hsent
      rw [hsent] at hattempt
      exact hattempt
    · rename_i sent outcome hsent
      rw [hsent] at hattempt
      exact hattempt.finish place (wellFormed_of_attempt hsent)

theorem submit {after : Bridge} {command : Command} {session : Session} {place : Nat}
    {failed : Bool} (hsubmit : bridge.submit command session = some (place, after, failed)) :
    after.WellTold := by
  obtain ⟨⟨place', created⟩, hcreate, heq⟩ := Option.map_eq_some_iff.mp hsubmit
  have hsend := (h.create hcreate).send place'
  rw [(Prod.mk.inj heq).2] at hsend
  exact hsend

theorem answer (place : Nat) (text : String) : (bridge.answer place text).1.WellTold :=
  h.finish place (bridge.dialect.wellFormed_reply text)

theorem relay (place : Nat) (request : Request) (session : Session) (time : Span) :
    (bridge.relay place request session time).1.WellTold := by
  have hnotified := h.notified place request time
  cases hconclusion : session.conduct.conclusion with
  | none =>
      rw [relay_of_alone hconclusion]
      exact hnotified
  | some text =>
      cases howner : bridge.registry.lookup request.sequence with
      | none =>
          rw [relay_of_gone hconclusion howner]
          exact hnotified
      | some owner =>
          rw [relay_of_owner hconclusion howner]
          exact hnotified.answer owner text

theorem keepAlive (place : Nat) (request : Request) (text : String) :
    (bridge.keepAlive place request text).1.WellTold := by
  have hheard : (bridge.modifyRequest place (·.hear text)).WellTold := h
  rw [Bridge.keepAlive]
  cases (request.hear text).estimate.stretch? with
  | none => exact hheard
  | some time =>
      rw [relayWithin]
      split
      · exact hheard
      · exact hheard.relay place _ _ time

/-- An event that ends a request tells its verdict, and any other tells times only. -/
theorem complete (place : Nat) (event : Event) : (bridge.complete place event).1.WellTold := by
  cases hrequest : bridge.requests[place]? with
  | none =>
      rw [complete_of_none hrequest]
      exact h
  | some request =>
      cases hopen : request.completed with
      | true =>
          rw [complete_of_completed hrequest hopen]
          exact h
      | false =>
          cases hterminal : event.isTerminal with
          | true =>
              rw [complete_of_terminal hrequest hopen hterminal]
              exact h.finish place (bridge.dialect.wellFormed_verdict event)
          | false =>
              rw [complete_of_keepAlive hrequest hopen hterminal]
              exact h.keepAlive place request event.text

theorem dispatch (message : Message) : (bridge.dispatch message).1.WellTold := by
  cases hevent : Event.ofMessage? message with
  | none =>
      rw [dispatch_of_no_event hevent]
      exact h
  | some event =>
      cases howner : bridge.registry.lookup message.sequence with
      | none =>
          rw [dispatch_of_no_owner hevent howner]
          exact h
      | some place =>
          rw [dispatch_of_owner hevent howner]
          exact h.complete place event

/-- **A step tells well-formed outcomes only.** -/
theorem step (step : Step) : (bridge.step step).1.WellTold := by
  cases step with
  | create command session =>
      rw [Bridge.step]
      cases hcreate : bridge.create command session with
      | none => exact h
      | some created => exact h.create hcreate
  | submit command session =>
      rw [Bridge.step]
      cases hsubmit : bridge.submit command session with
      | none => exact h
      | some submitted => exact h.submit hsubmit
  | send place => exact h.send place
  | complete place event => exact h.complete place event
  | dispatch message => exact h.dispatch message
  | refuse on => exact h
  | close => exact h
  | setLink bound refusal => exact h

theorem run (steps : List Step) : (bridge.run steps).WellTold := by
  induction steps generalizing bridge with
  | nil => exact h
  | cons step steps ih => exact ih (h.step step)

end WellTold

end Bridge

/-! ### Waits in vain -/

/-- Who waits in vain is told so by the slot. -/
theorem Slot.exists_timeout {slot : Slot} {now : Nat} {visits : List (Nat × Visit)}
    (h : (slot.await now visits).timedOut = true) :
    ∃ last : Slot, (slot.await now visits).outcome = last.timeout := by
  induction visits generalizing slot now with
  | nil =>
      rw [await.eq_def] at h ⊢
      split at h
      · exact absurd h (by simp)
      · exact ⟨slot, rfl⟩
  | cons visit later ih =>
      rw [await.eq_def] at h ⊢
      split at h
      · exact absurd h (by simp)
      · dsimp only at h ⊢
        split at h
        · rename_i hearly
          rw [if_pos hearly]
          exact ih h
        · rename_i hlate
          rw [if_neg hlate]
          exact ⟨slot, rfl⟩

theorem Slot.wellFormed_timeout (slot : Slot) : slot.timeout.WellFormed :=
  Outcome.wellFormed_failed (by decide) _

namespace Bridge

/-! ### Runs -/

/-- **Every outcome that is handed out is well formed.** On every bridge that a run can lead to, all
outcomes that callers have been told are; an error ends an open request as a failure, whatever its
text says, completed by hand or led to the request by its number; and what a caller gets at a slot
where it waited in vain is well formed as well. -/
theorem run_outcomes_wellFormed (dialect : Dialect) (settings : Settings) (link : Link)
    (steps : List Step) :
    let bridge := (Bridge.new dialect settings link).run steps
    (∀ callback ∈ bridge.log, ∀ outcome, callback.notice = .done outcome → outcome.WellFormed) ∧
    (∀ (place : Nat) (request : Request) (text : String),
      bridge.requests[place]? = some request → request.completed = false →
        ∃ outcome : Outcome, outcome.success = false ∧
          (bridge.complete place (.error text)).1.toldTo place =
            bridge.toldTo place ++ [request.told place false (.done outcome)]) ∧
    (∀ (message : Message) (place : Nat), message.class? = some .error →
      bridge.registry.lookup message.sequence = some place →
        ∃ (request : Request) (outcome : Outcome), bridge.requests[place]? = some request ∧
          outcome.success = false ∧
          (bridge.dispatch message).1.toldTo place =
            bridge.toldTo place ++ [request.told place false (.done outcome)]) ∧
    ∀ (slot : Slot) (now : Nat) (initial : Span) (visits : List (Nat × Slot.Visit)),
      (slot.wait now initial visits).timedOut = true →
        (slot.wait now initial visits).outcome.WellFormed := by
  intro bridge
  have hagrees : bridge.Agrees := run_agrees dialect settings link steps
  have hnew : (Bridge.new dialect settings link).WellTold := by
    intro callback hcallback
    exact absurd hcallback (by simp [Bridge.new])
  -- An error is told as its verdict, and that is never a success.
  have herror : ∀ (place : Nat) (request : Request) (text : String),
      bridge.requests[place]? = some request → request.completed = false →
        ∃ outcome : Outcome, outcome.success = false ∧
          (bridge.complete place (.error text)).1.toldTo place =
            bridge.toldTo place ++ [request.told place false (.done outcome)] := by
    intro place request text hrequest hopen
    obtain ⟨session, hattended⟩ := exists_attended dialect settings link steps hrequest hopen
    exact ⟨_, bridge.dialect.success_verdict_error text, (hattended.complete_tells rfl).2⟩
  refine ⟨hnew.run steps, herror, fun message place hclass howner => ?_, fun slot now initial visits
    hvain => ?_⟩
  · obtain ⟨request, hrequest, hopen, -⟩ := (hagrees.owner_iff _ _).mp howner
    obtain ⟨outcome, hfailure, htold⟩ := herror place request message.text hrequest hopen
    have hevent : Event.ofMessage? message = some (.error message.text) := by
      rw [Event.ofMessage?, hclass]
      rfl
    rw [dispatch_of_owner hevent howner]
    exact ⟨request, outcome, hrequest, hfailure, htold⟩
  · obtain ⟨last, hlast⟩ := Slot.exists_timeout hvain
    exact hlast ▸ last.wellFormed_timeout

/-- An error that says success is told as a failure. -/
theorem run_outcomes_wellFormed_error_ok :
    let bridge := (Bridge.new .tcs {} {}).run [.create .stop (.single {})]
    ∃ (request : Request) (outcome : Outcome), bridge.requests[0]? = some request ∧
      outcome.success = false ∧
      (bridge.dispatch ⟨1, 17, 6, 1, 1, "OK 7"⟩).1.toldTo 0 =
        [request.told 0 false (.done outcome)] :=
  (run_outcomes_wellFormed .tcs {} {} [.create .stop (.single {})]).2.2.1
    ⟨1, 17, 6, 1, 1, "OK 7"⟩ 0 rfl rfl

/-- **Codes of this side and of the far end.** On every bridge that a run can lead to, whatever event
ends an open request: it is told as a timeout of the far end if its text begins with the marker of
one, or is a failure in words with the code of one, and in no other case; and it is told with a code
that stands for what goes wrong on this side exactly if its text is a failure in words with that
code. -/
theorem run_cites_codes (dialect : Dialect) (settings : Settings) (link : Link)
    (steps : List Step) {place : Nat} {request : Request} {event : Event}
    (hrequest : ((Bridge.new dialect settings link).run steps).requests[place]? = some request)
    (hopen : request.completed = false) (hterminal : event.isTerminal = true) :
    let bridge := (Bridge.new dialect settings link).run steps
    ∃ outcome : Outcome,
      (bridge.complete place event).1.toldTo place =
        bridge.toldTo place ++ [request.told place false (.done outcome)] ∧
      (outcome.code = Outcome.farEndTimeout ↔
        Dialect.IsTimeout event.text ∨ dialect.Cites event.text Outcome.farEndTimeout) ∧
      ∀ code ∈ [Outcome.localTimeout, Outcome.transmitFailed, Outcome.translationFailed],
        outcome.code = code ↔ ¬Dialect.IsTimeout event.text ∧ dialect.Cites event.text code := by
  intro bridge
  obtain ⟨session, hattended⟩ := exists_attended dialect settings link steps hrequest hopen
  have hdialect : bridge.dialect = dialect :=
    (Bridge.run_moves (.new dialect settings link) steps).dialect_eq
  have htold := (hattended.complete_tells hterminal).2
  rw [hdialect] at htold
  refine ⟨_, htold, ?_, fun code hcode => ?_⟩
  · rw [Dialect.code_verdict_eq_iff (by decide) (by decide),
      Dialect.code_reply_eq_iff (by decide) (by decide)]
    tauto
  · have hreserved : code ≠ 0 ∧ code ≠ Outcome.farEndError ∧ code ≠ Outcome.farEndTimeout := by
      simp only [List.mem_cons, List.not_mem_nil, or_false] at hcode
      rcases hcode with rfl | rfl | rfl <;> decide
    rw [Dialect.code_verdict_eq_iff hreserved.1 hreserved.2.1,
      Dialect.code_reply_eq_iff hreserved.1 hreserved.2.1]
    simp [hreserved.2.2]

/-- The far end can tell a failure with the code of one that happens on this side only. -/
theorem run_cites_codes_of_this_side :
    let bridge := (Bridge.new .tcs {} {}).run [.create .stop (.single {})]
    ∃ (request : Request) (outcome : Outcome), bridge.requests[0]? = some request ∧
      (bridge.complete 0 (.error "ERR 700001 axis fault")).1.toldTo 0 =
        [request.told 0 false (.done outcome)] ∧
      outcome.code = Outcome.translationFailed := by
  intro bridge
  have hrequest : bridge.requests[0]? = some
      { sequence := 1, command := .stop, estimate := ⟨10000000000⟩,
        session := some (.single {}) } := rfl
  have hcites : Dialect.tcs.Cites "ERR 700001 axis fault" Outcome.translationFailed :=
    ⟨"ERR".toList, "700001".toList, ["axis".toList, "fault".toList],
      writes_iff.mpr (by decide +kernel), ⟨"ERR".toList, by decide, rfl⟩,
      int32?_eq_some_iff.mp (by decide +kernel)⟩
  have hmarker : ¬Dialect.IsTimeout "ERR 700001 axis fault" :=
    mt Dialect.isTimeoutReply_iff.mpr (by decide +kernel)
  obtain ⟨outcome, htold, -, hcodes⟩ := @run_cites_codes .tcs {} {} [.create .stop (.single {})] 0 _
    (.error "ERR 700001 axis fault") hrequest rfl rfl
  exact ⟨_, outcome, hrequest, htold, (hcodes _ (by simp)).mpr ⟨hmarker, hcites⟩⟩

/-- A timeout of the far end is told where none was reported, and a wait in vain where nobody waited:
the far end need only write their codes. -/
theorem reserved_codes_cited :
    let bridge := (Bridge.new .tcs {} {}).run
      [.create .stop (.single {}), .dispatch ⟨1, 17, 6, 1, 1, "ERR 700090 axis fault"⟩,
        .create .stop (.single {}), .dispatch ⟨1, 17, 5, 1, 2, "ERR 700004 axis fault"⟩]
    Dialect.isTimeoutReply "ERR 700090 axis fault" = false ∧
      bridge.log.map (·.notice) =
        [.done (.failed Outcome.farEndTimeout "axis fault"),
          .done (.failed Outcome.localTimeout "axis fault")] := by
  decide +kernel

end Bridge

end TelescopeLink
