import TelescopeLink.Proofs.Bridge.Operations

/-!
# Each caller is told one outcome, and nothing after it

What the caller of a request is told is a row of keep-alives, and behind them the outcome if the
request is over (`TellsInOrder`). A move keeps this: only a keep-alive of an open request and its
end add anything, and the end closes the request in the same move. With agreement, which says who
still holds a session, and with the progress of requests this gives `run_tells_once`, for every run
and every request.
-/

namespace TelescopeLink

/-- The notice is an outcome. -/
def Notice.isOutcome : Notice → Bool
  | .keepAlive _ => false
  | .done _ => true

/-! ### Notices in order -/

/-- Keep-alives, and behind them one outcome if the request is over. -/
def InOrder (completed : Bool) (notices : List Notice) : Prop :=
  ∃ (times : List Span) (outcome? : Option Outcome),
    notices = times.map .keepAlive ++ outcome?.toList.map .done ∧ outcome?.isSome = completed

namespace InOrder

theorem nil : InOrder false [] := ⟨[], none, rfl, rfl⟩

/-- As long as the request is not over, only keep-alives were told. -/
theorem eq_keepAlives {notices : List Notice} (h : InOrder false notices) :
    ∃ times : List Span, notices = times.map .keepAlive := by
  obtain ⟨times, outcome?, rfl, hnone⟩ := h
  obtain rfl := Option.isSome_eq_false_iff.mp hnone |> Option.isNone_iff_eq_none.mp
  exact ⟨times, by simp⟩

theorem keepAlive {notices : List Notice} (h : InOrder false notices) (time : Span) :
    InOrder false (notices ++ [.keepAlive time]) := by
  obtain ⟨times, rfl⟩ := h.eq_keepAlives
  exact ⟨times ++ [time], none, by simp, rfl⟩

theorem done {notices : List Notice} (h : InOrder false notices) (outcome : Outcome) :
    InOrder true (notices ++ [.done outcome]) := by
  obtain ⟨times, rfl⟩ := h.eq_keepAlives
  exact ⟨times, some outcome, by simp, rfl⟩

/-- One outcome in all if the request is over, and none before. -/
theorem countP_isOutcome {completed : Bool} {notices : List Notice}
    (h : InOrder completed notices) :
    notices.countP Notice.isOutcome = if completed then 1 else 0 := by
  obtain ⟨times, outcome?, rfl, rfl⟩ := h
  have hnone : (times.map Notice.keepAlive).countP Notice.isOutcome = 0 := by
    rw [List.countP_eq_zero]
    intro notice hnotice
    obtain ⟨time, -, rfl⟩ := List.mem_map.mp hnotice
    exact Bool.false_ne_true
  rw [List.countP_append, hnone]
  cases outcome? <;> rfl

/-- The outcome comes last. -/
theorem eq_nil_of_isOutcome {completed : Bool} {before after : List Notice} {notice : Notice}
    (h : InOrder completed (before ++ notice :: after)) (hnotice : notice.isOutcome = true) :
    after = [] := by
  obtain ⟨times, outcome?, heq, -⟩ := h
  induction times generalizing before with
  | nil =>
      -- Only the outcome is left, so nothing stands beside it.
      have hlength := congrArg List.length heq
      have : outcome?.toList.length ≤ 1 := by cases outcome? <;> simp
      simp only [List.map_nil, List.nil_append, List.length_append, List.length_cons,
        List.length_map] at hlength
      exact List.length_eq_zero_iff.mp (by omega)
  | cons time times ih =>
      cases before with
      | nil =>
          rw [List.nil_append, List.map_cons, List.cons_append] at heq
          rw [(List.cons.inj heq).1] at hnotice
          exact absurd hnotice Bool.false_ne_true
      | cons first before => exact ih (List.cons.inj heq).2

end InOrder

namespace Bridge

/-! ### One move -/

/-- The request at a place is there and over. -/
def overAt (bridge : Bridge) (place : Nat) : Bool := bridge.requests[place]?.any (·.completed)

/-- What callers were told, in order and complete for every request. -/
def TellsInOrder (bridge : Bridge) : Prop :=
  ∀ place, InOrder (bridge.overAt place) ((bridge.toldTo place).map (·.notice))

theorem tellsInOrder_new (dialect : Dialect) (settings : Settings) (link : Link) :
    (Bridge.new dialect settings link).TellsInOrder := fun _ => InOrder.nil

theorem overAt_eq {bridge : Bridge} {place : Nat} {request : Request}
    (h : bridge.requests[place]? = some request) : bridge.overAt place = request.completed := by
  rw [overAt, h]
  rfl

@[simp] theorem overAt_tell (bridge : Bridge) (place : Nat) (request : Request) (notice : Notice)
    (q : Nat) : (bridge.tell place request notice).overAt q = bridge.overAt q := rfl

theorem overAt_retire {bridge : Bridge} {place : Nat} {request : Request}
    (h : bridge.requests[place]? = some request) :
    (bridge.retire place request).overAt place = true :=
  overAt_eq (requests_modifyRequest_self bridge h Request.complete)

theorem overAt_modifyRequest (bridge : Bridge) (place : Nat) {change : Request → Request}
    (h : ∀ request, (change request).completed = request.completed) :
    (bridge.modifyRequest place change).overAt place = bridge.overAt place := by
  cases hrequest : bridge.requests[place]? <;> simp [overAt, modifyRequest, hrequest, h]

/-- **A move tells in order.** -/
theorem Move.tellsInOrder {place : Nat} {bridge after : Bridge} (hmove : Move place bridge after)
    (h : bridge.TellsInOrder) : after.TellsInOrder := by
  intro q
  by_cases hne : q = place
  · subst hne
    have hq := h q
    -- Only a relay and the end of a request tell anything, and both are about an open one.
    cases hmove with
    | register command session halloc =>
        rw [overAt, List.getElem?_eq_none le_rfl] at hq
        rw [overAt, List.getElem?_concat_length]
        exact hq
    | record text =>
        rw [overAt_modifyRequest, toldTo_modifyRequest]
        · exact hq
        · exact fun _ => rfl
    | hear hrequest hopen text =>
        rw [overAt_modifyRequest, toldTo_modifyRequest]
        · exact hq
        · exact fun _ => rfl
    | relay hrequest hopen timeToComplete =>
        rw [overAt_eq hrequest, hopen] at hq
        rw [overAt_tell, overAt_modifyRequest, overAt_eq hrequest, hopen, toldTo_tell, if_pos rfl,
          List.map_append, toldTo_modifyRequest]
        · exact hq.keepAlive timeToComplete
        · exact fun _ => rfl
    | retire hrequest hopen outcome =>
        rw [overAt_eq hrequest, hopen] at hq
        rw [overAt_tell, overAt_retire hrequest, toldTo_tell, if_pos rfl, List.map_append,
          toldTo_retire]
        exact hq.done outcome
    | surroundings link running => exact hq
  · rw [overAt, hmove.request_of_ne hne, hmove.toldTo_of_ne hne]
    exact h q

/-! ### Runs -/

theorem run_tellsInOrder (dialect : Dialect) (settings : Settings) (link : Link)
    (steps : List Step) : ((Bridge.new dialect settings link).run steps).TellsInOrder :=
  (run_moves (.new dialect settings link) steps).induction
    (fun _ _ _ hmove _ => hmove.tellsInOrder) (tellsInOrder_new dialect settings link)

/-- **Each caller is told one outcome and nothing after it.** At every point of every run from a new
bridge, and for every request: it has been told one outcome if it is completed, and none otherwise;
nothing was told behind an outcome; it holds its session exactly as long as it is not completed; and
whatever is done later, its state does not go back. -/
theorem run_tells_once (dialect : Dialect) (settings : Settings) (link : Link)
    (steps : List Step) :
    let bridge := (Bridge.new dialect settings link).run steps
    ∀ (place : Nat) (request : Request), bridge.requests[place]? = some request →
      (bridge.toldTo place).countP (·.notice.isOutcome) = (if request.completed then 1 else 0) ∧
      (∀ before callback after, bridge.toldTo place = before ++ callback :: after →
        callback.notice.isOutcome = true → after = []) ∧
      (request.session.isSome = true ↔ request.completed = false) ∧
      ∀ later, ∃ request', (bridge.run later).requests[place]? = some request' ∧
        request.state.rank ≤ request'.state.rank := by
  intro bridge place request hrequest
  have hagrees : bridge.Agrees := run_agrees dialect settings link steps
  have horder := run_tellsInOrder dialect settings link steps place
  rw [overAt_eq hrequest] at horder
  refine ⟨?_, fun before callback after heq hnotice => ?_, ?_, fun later => ?_⟩
  · rw [← horder.countP_isOutcome, List.countP_map]
    rfl
  · rw [heq, List.map_append, List.map_cons] at horder
    exact List.map_eq_nil_iff.mp (horder.eq_nil_of_isOutcome hnotice)
  · rw [hagrees.held place request hrequest, Bool.not_eq_true']
  · obtain ⟨request', hrequest', hprogress⟩ := (run_moves hagrees later).progress hrequest
    exact ⟨request', hrequest', hprogress.rank_le⟩

/-- A request that is answered has been told its one outcome. -/
theorem run_tells_once_answered :
    let bridge := (Bridge.new .tcs {} {}).run
      [.create .stop (.single {}), .complete 0 (.done "OK")]
    (bridge.toldTo 0).countP (·.notice.isOutcome) = 1 := by
  intro bridge
  have hrequest : bridge.requests[0]? = some
      { sequence := 1, command := .stop, estimate := ⟨10000000000⟩, completed := true,
        session := none } := rfl
  exact (run_tells_once .tcs {} {} _ 0 _ hrequest).1

end Bridge

end TelescopeLink
