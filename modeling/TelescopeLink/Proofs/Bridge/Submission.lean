import TelescopeLink.Proofs.Bridge.Transmission

/-!
# Submitting is all or nothing

A command that is submitted while a number is free turns out in one of four ways, its `Fate`: the
dialect refuses it, has no words for it, or the link does or does not take its text. If the link
takes it, the request is underway: one more datagram is on the link, the request has its number, and
nobody has been told anything. Otherwise it is settled at once: the caller has been told so, and
nothing else remains of the submission but a completed request and a counter that has moved; the
number is free again, with all others in the hands they were in.

Number and text are recorded before anything can fail, so on each of these ways out exactly this
must be taken back. That it is shows in the equations for the whole bridge (`settled`, `underway`):
whatever they do not mention is as it was.

The callback in which the caller is told may submit a command itself. That is a submission of its
own, from the settled bridge (`react`, `conclude_eq_react`).
-/

namespace TelescopeLink

namespace Bridge

/-! ### What a caller does when it has been told -/

/-- What a caller does to the bridge in the callback of its outcome, and whether that fails. A caller
that cannot submit its command fails as well. -/
def react (told : Bridge) : Session → Bridge × Bool
  | .single conduct => (told, conduct.failsDone)
  | .chain conduct command next =>
    match told.submit command next with
    | none => (told, true)
    | some (_, after, failed) => (after, failed || conduct.failsDone)

/-- Only number and command of a request matter for its end, whatever its session does. -/
theorem conclude_congr (session : Session) (bridge : Bridge) (place : Nat) {request actual : Request}
    (hsequence : request.sequence = actual.sequence) (hcommand : request.command = actual.command)
    (outcome : Outcome) :
    conclude session bridge place request outcome =
      conclude session bridge place actual outcome := by
  cases session with
  | single conduct =>
      rw [conclude_single, conclude_single, ended_congr bridge place hsequence hcommand]
  | chain conduct command next =>
      rw [conclude_chain, conclude_chain, ended_congr bridge place hsequence hcommand]

/-- Sending a new request ends it with the outcome of the attempt, if that gives one. -/
theorem send_of_create {bridge created : Bridge} {command : Command} {session : Session}
    {place : Nat} (h : bridge.create command session = some (place, created)) :
    ∃ request, created.requests[place]? = some request ∧
      created.send place =
        match created.attempt place request with
        | (sent, none) => (sent, false)
        | (sent, some outcome) => conclude session sent place request outcome := by
  obtain ⟨rfl, n, registry, -, hcreated⟩ := create_eq_some_iff.mp h
  have hrequest : created.requests[bridge.requests.length]? =
      some (bridge.fresh command session n) := by
    rw [hcreated]
    simp
  refine ⟨bridge.fresh command session n, hrequest, ?_⟩
  -- An attempt leaves a request open and with its session, so what ends it is `conclude`.
  obtain ⟨actual, hactual, hsequence, hcommand, hopen, hsession⟩ :=
    attempt_request hrequest (bridge.fresh command session n)
  rw [send, hrequest]
  dsimp only
  rcases hattempt : created.attempt _ _ with ⟨sent, _ | outcome⟩
  · rfl
  · rw [hattempt] at hactual
    dsimp only
    rw [finish_of_open hactual hopen hsession]
    exact conclude_congr session sent _ hsequence hcommand outcome

/-- **The end of a request** is that its caller is told and does what it does. -/
theorem conclude_eq_react (session : Session) (bridge : Bridge) (place : Nat) (request : Request)
    (outcome : Outcome) :
    conclude session bridge place request outcome =
      (bridge.ended place request outcome session.conduct.halts).react session := by
  cases session with
  | single conduct => rfl
  | chain conduct command next =>
      rw [conclude_chain, react, submit, Session.conduct]
      cases hcreate : (bridge.ended place request outcome conduct.halts).create command next with
      | none => rfl
      | some created =>
          obtain ⟨place', created⟩ := created
          obtain ⟨request', hrequest', hsend⟩ := send_of_create hcreate
          dsimp only [Option.map_some]
          rw [hrequest', hsend]
          dsimp only
          rcases created.attempt place' request' with ⟨sent, _ | outcome'⟩
          · rfl
          · rfl

/-! ### How a submission turns out -/

/-- The four ways in which a submission can turn out. -/
inductive Fate
  /-- The dialect refuses the command. -/
  | refused (refusal : Refusal)
  /-- The dialect has no words for the command. -/
  | wordless
  /-- The link does not take the text. -/
  | unsent (text : String) (error : Error)
  /-- The link takes the text. -/
  | sent (text : String)

section Submission

variable (bridge : Bridge) (command : Command) (session : Session) (n : Int32)

/-- A submission under the number `n` turns out like this. -/
def Meets : Fate → Prop
  | .refused refusal => bridge.dialect.render command = .error refusal
  | .wordless => bridge.dialect.render command = .ok none
  | .unsent text error =>
    bridge.dialect.render command = .ok (some text) ∧
      bridge.link.send (bridge.datagram (bridge.fresh command session n) text) = .error error
  | .sent text =>
    bridge.dialect.render command = .ok (some text) ∧
      bridge.link.takes (bridge.datagram (bridge.fresh command session n) text) = true

/-- The bridge with a new request that has the number `n`, and the text that is recorded so far. -/
def enrolled (wireText : Option String) : Bridge :=
  { bridge with
    registry := ⟨n, bridge.registry.entries ++ [(n, bridge.requests.length)]⟩
    requests := bridge.requests ++ [{ bridge.fresh command session n with wireText }] }

/-- The bridge when the text of a new request has been sent. -/
def underway (text : String) : Bridge :=
  { bridge.enrolled command session n (some text) with
    link := bridge.link.post [bridge.datagram (bridge.fresh command session n) text] }

/-- The bridge when a new request was over at once and its caller has been told so. -/
def settled (wireText : Option String) (outcome : Outcome) : Bridge :=
  { bridge with
    registry := { bridge.registry with last := n }
    requests := bridge.requests ++
      [{ bridge.fresh command session n with wireText, completed := true, session := none }]
    running := bridge.running && !session.conduct.halts
    log := bridge.log ++
      [{ request := bridge.requests.length
         sequence := n
         typeName := command.typeName
         notice := .done outcome
         registered := false }] }

/-- The bridge when a submission has met its fate and the caller, if it was told, has done what it
does then; and whether a callback failed. -/
def submitted : Fate → Bridge × Bool
  | .refused refusal =>
    (bridge.settled command session n none
      (Outcome.failed Outcome.translationFailed (Error.translation refusal).message)).react session
  | .wordless => (bridge.settled command session n none (Outcome.ok [])).react session
  | .unsent text error =>
    (bridge.settled command session n (some text)
      (Outcome.failed Outcome.transmitFailed error.message)).react session
  | .sent text => (bridge.underway command session n text, false)

/-- A submission turns out in exactly one way. -/
theorem existsUnique_meets : ∃! fate, bridge.Meets command session n fate := by
  cases hrender : bridge.dialect.render command with
  | error refusal =>
      refine ⟨.refused refusal, hrender, fun fate hfate => ?_⟩
      cases fate <;> simp_all [Meets]
  | ok text? =>
      cases text? with
      | none =>
          refine ⟨.wordless, hrender, fun fate hfate => ?_⟩
          cases fate <;> simp_all [Meets]
      | some text =>
          cases htakes : bridge.link.takes (bridge.datagram (bridge.fresh command session n) text) with
          | true =>
              have hsend := Link.send_of_takes htakes
              refine ⟨.sent text, ⟨hrender, htakes⟩, fun fate hfate => ?_⟩
              cases fate <;> simp_all [Meets]
          | false =>
              obtain ⟨error, hsend⟩ := Link.send_of_not_takes htakes
              refine ⟨.unsent text error, ⟨hrender, hsend⟩, fun fate hfate => ?_⟩
              cases fate <;> simp_all [Meets]

end Submission

section Steps

variable {bridge : Bridge} {command : Command} {session : Session} {n : Int32}

/-- A new request goes behind those that are there, under the number that was found. -/
theorem create_of_nextFree
    (hn : bridge.registry.nextFree? (bridge.registry.size + 1) bridge.registry.last = some n)
    (command : Command) (session : Session) :
    bridge.create command session =
      some (bridge.requests.length, bridge.enrolled command session n none) := by
  refine create_eq_some_iff.mpr ⟨rfl, n, _, ?_, rfl⟩
  rw [Registry.allocate?_eq_some_iff,
    Registry.put_of_free (Registry.contains_of_nextFree?_eq_some hn)]
  exact ⟨hn, rfl⟩

/-- A command can be submitted as long as one number is free. -/
theorem create_of_free (hlast : Registry.InRange bridge.registry.last)
    (hfree : ∃ m, Registry.InRange m ∧ bridge.registry.contains m = false) (command : Command)
    (session : Session) :
    ∃ n, Registry.InRange n ∧ bridge.registry.contains n = false ∧
      bridge.create command session =
        some (bridge.requests.length, bridge.enrolled command session n none) := by
  obtain ⟨m, hm, hfree⟩ := hfree
  obtain ⟨n, hn⟩ := Registry.exists_nextFree?_of_free hlast hm hfree
  have hfree : bridge.registry.contains n = false := Registry.contains_of_nextFree?_eq_some hn
  have hrange : Registry.InRange n := by
    obtain ⟨k, -, rfl, -⟩ := Registry.nextFree?_eq_some_iff.mp hn
    exact Registry.inRange_iterate hlast (k + 1)
  exact ⟨n, hrange, hfree, create_of_nextFree hn command session⟩

theorem modify_concat {α : Type} (before : List α) (x : α) (change : α → α) :
    (before ++ [x]).modify before.length change = before ++ [change x] := by
  induction before with
  | nil => rfl
  | cons y before ih => simp [ih]

theorem recorded_enrolled (text : String) :
    (bridge.enrolled command session n none).recorded bridge.requests.length text =
      bridge.enrolled command session n (some text) := by
  simp only [recorded, enrolled, modifyRequest, modify_concat]

/-- **What is taken back**: when a new request is over, its number is free again. -/
theorem ended_enrolled (hfree : bridge.registry.contains n = false) (wireText : Option String)
    (outcome : Outcome) :
    (bridge.enrolled command session n wireText).ended bridge.requests.length
        (bridge.fresh command session n) outcome session.conduct.halts =
      bridge.settled command session n wireText outcome := by
  have hrelease : Registry.release ⟨n, bridge.registry.entries ++ [(n, bridge.requests.length)]⟩ n =
      { bridge.registry with last := n } := by
    have hentries := congrArg Registry.entries
      (Registry.release_put_of_free hfree bridge.requests.length)
    rw [Registry.put_of_free hfree] at hentries
    exact congrArg (Registry.mk n) hentries
  have hcontains : Registry.contains { bridge.registry with last := n } n = false := hfree
  simp only [ended, retire, tell, modifyRequest, around, enrolled, settled, fresh, hrelease,
    modify_concat, Request.complete, hcontains]

/-- A new request that does not reach the wire is settled. -/
theorem conclude_enrolled (hfree : bridge.registry.contains n = false) (wireText : Option String)
    (outcome : Outcome) :
    conclude session (bridge.enrolled command session n wireText) bridge.requests.length
        (bridge.fresh command session n) outcome =
      (bridge.settled command session n wireText outcome).react session := by
  rw [conclude_eq_react, ended_enrolled hfree]

/-- **Sending a new request**, by what becomes of it. -/
theorem send_enrolled (hfree : bridge.registry.contains n = false)
    (hcreate : bridge.create command session =
      some (bridge.requests.length, bridge.enrolled command session n none)) {fate : Fate}
    (hfate : bridge.Meets command session n fate) :
    (bridge.enrolled command session n none).send bridge.requests.length =
      bridge.submitted command session n fate := by
  have hfresh : (bridge.enrolled command session n none).requests[bridge.requests.length]? =
      some (bridge.fresh command session n) := by
    simp [enrolled, fresh]
  obtain ⟨request, hrequest, hsend⟩ := send_of_create hcreate
  obtain rfl : request = bridge.fresh command session n :=
    Option.some.inj (hrequest.symm.trans hfresh)
  rw [hsend]
  -- The fate says how the attempt goes, since enrolling changes neither dialect nor link.
  cases fate with
  | refused refusal =>
      have hrender : (bridge.enrolled command session n none).dialect.render
          (bridge.fresh command session n).command = .error refusal := hfate
      rw [attempt_of_refused hrender]
      exact conclude_enrolled hfree none _
  | wordless =>
      have hrender : (bridge.enrolled command session n none).dialect.render
          (bridge.fresh command session n).command = .ok none := hfate
      rw [attempt_of_wordless hrender]
      exact conclude_enrolled hfree none _
  | unsent text error =>
      have hrender : (bridge.enrolled command session n none).dialect.render
          (bridge.fresh command session n).command = .ok (some text) := hfate.1
      have herror : (bridge.enrolled command session n none).link.send
          ((bridge.enrolled command session n none).datagram (bridge.fresh command session n) text) =
            .error error := hfate.2
      rw [attempt_of_unsent hrender herror, recorded_enrolled]
      exact conclude_enrolled hfree (some text) _
  | sent text =>
      have hrender : (bridge.enrolled command session n none).dialect.render
          (bridge.fresh command session n).command = .ok (some text) := hfate.1
      have hlink : (bridge.enrolled command session n none).link.send
          ((bridge.enrolled command session n none).datagram (bridge.fresh command session n) text) =
            .ok (bridge.link.post [bridge.datagram (bridge.fresh command session n) text]) :=
        Link.send_of_takes hfate.2
      rw [attempt_of_sent hrender hlink, recorded_enrolled]
      rfl

/-- Whatever a submission gives, some fate says so. -/
theorem eq_submitted_of_submit {place : Nat} {result : Bridge × Bool}
    (h : bridge.submit command session = some (place, result)) :
    place = bridge.requests.length ∧ ∃ n fate, bridge.Meets command session n fate ∧
      result = bridge.submitted command session n fate := by
  rw [submit, Option.map_eq_some_iff] at h
  obtain ⟨⟨place', created⟩, hcreate, heq⟩ := h
  obtain ⟨rfl, rfl⟩ := Prod.mk.inj heq
  obtain ⟨hplace, n, registry, halloc, -⟩ := create_eq_some_iff.mp hcreate
  have hn := (Registry.allocate?_eq_some_iff.mp halloc).1
  have henrolled := create_of_nextFree hn command session
  obtain ⟨rfl, rfl⟩ := Prod.mk.inj (Option.some.inj (hcreate.symm.trans henrolled))
  obtain ⟨fate, hfate, -⟩ := existsUnique_meets bridge command session n
  exact ⟨rfl, n, fate, hfate,
    send_enrolled (Registry.contains_of_nextFree?_eq_some hn) henrolled hfate⟩

end Steps

/-- **Submitting is all or nothing**, in every state of the bridge in which a number is free, for
every command and every session, and whatever the link does. A submission meets exactly one of four
fates. If the link takes the text, there is one more datagram behind those sent before, and a request
that has its number and waits for a reply. In the other three cases the caller is told at once why
not, the link is as it was, and so is the registry but for its counter; the request is over. Nothing
else about the bridge has changed by then, and what follows is what the session does when it is told:
nothing more, or a submission of its own. -/
theorem submit_all_or_nothing {bridge : Bridge} (hlast : Registry.InRange bridge.registry.last)
    (hfree : ∃ m, Registry.InRange m ∧ bridge.registry.contains m = false) (command : Command)
    (session : Session) :
    ∃ n result, bridge.submit command session = some (bridge.requests.length, result) ∧
      Registry.InRange n ∧ bridge.registry.contains n = false ∧
      (∃! fate, bridge.Meets command session n fate) ∧
      ∀ fate, bridge.Meets command session n fate →
        result = bridge.submitted command session n fate := by
  obtain ⟨n, hrange, hn, hcreate⟩ := create_of_free hlast hfree command session
  refine ⟨n, (bridge.enrolled command session n none).send bridge.requests.length, ?_, hrange, hn,
    existsUnique_meets bridge command session n, fun fate hfate => send_enrolled hn hcreate hfate⟩
  rw [submit, hcreate]
  rfl

/-- On a closed link: the text is recorded, the caller is told, and the number is free again. -/
theorem submit_all_or_nothing_closed :
    let bridge := Bridge.new .tcs {} (Link.close {})
    ∃ after, bridge.submit .stop (.single {}) = some (0, after, false) ∧
      after.link = bridge.link ∧ after.registry.entries = [] ∧
      after.requests.map (fun request => (request.wireText, request.state)) =
        [(some "STOP", .completed)] ∧
      after.log.map (·.notice) =
        [.done (Outcome.failed Outcome.transmitFailed "Transport not bound")] := by
  intro bridge
  have hlast : Registry.InRange bridge.registry.last := by decide
  have hfree : Registry.InRange 0 ∧ bridge.registry.contains 0 = false := by decide
  obtain ⟨n, result, hsubmit, -, -, -, hresult⟩ :=
    submit_all_or_nothing hlast ⟨0, hfree⟩ .stop (.single {})
  have hfate : bridge.Meets .stop (.single {}) n (.unsent "STOP" .notBound) :=
    ⟨by decide +kernel, rfl⟩
  rw [hresult _ hfate] at hsubmit
  exact ⟨_, hsubmit, rfl, rfl, rfl, rfl⟩

/-- A caller that submits a command when it is told leaves a request and a datagram of its own behind,
also when its first command came to nothing. -/
theorem submit_from_callback :
    let bridge := Bridge.new .simulator {} {}
    let result := bridge.submit (.autoguide true) (.chain {} .stop (.single {}))
    bridge.dialect.render (.autoguide true) = .ok none ∧
      bridge.registry.entries = [] ∧ bridge.link.sent = [] ∧
      (result.map fun (_, after, failed) =>
        (after.registry.entries, after.link.sent.length, failed)) = some ([(2, 1)], 1, false) := by
  decide +kernel

end Bridge

end TelescopeLink
