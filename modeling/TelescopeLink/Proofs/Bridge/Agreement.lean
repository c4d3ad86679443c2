import TelescopeLink.Proofs.Bridge.Move

/-!
# Registry and requests agree

A request is found under its number as long as it is open, and under no number afterwards. Numbers
are released by number and not by request, so this rests on the whole of `Agrees`: an entry of the
registry is an open request with that very number, which makes the number of an open request its
own, and a release hits nobody else.

Every move keeps `Agrees` (`Move.agrees`). The moves that change neither a number, nor whether a
request is open, nor who holds a session are all alike (`Agrees.modifyRequest`); what remains is a
new request, under a number that was free, and the end of a request.
-/

namespace TelescopeLink

namespace Bridge

/-- **Agreement** between the registry and the requests. -/
structure Agrees (bridge : Bridge) : Prop where
  sound : bridge.registry.Sound
  /-- The owner of a number is the open request that has it. -/
  owner_iff : ∀ n place, bridge.registry.lookup n = some place ↔
    ∃ request, bridge.requests[place]? = some request ∧ request.completed = false ∧
      request.sequence = n
  /-- A request holds its session as long as it is open. -/
  held : ∀ (place : Nat) (request : Request), bridge.requests[place]? = some request →
    request.session.isSome = !request.completed
  /-- Also the numbers of completed requests are such as a registry hands out. -/
  inRange : ∀ (place : Nat) (request : Request), bridge.requests[place]? = some request →
    Registry.InRange request.sequence

namespace Agrees

variable {bridge : Bridge}

/-- An open request is found under its number. -/
theorem lookup (h : bridge.Agrees) {place : Nat} {request : Request}
    (hrequest : bridge.requests[place]? = some request) (hopen : request.completed = false) :
    bridge.registry.lookup request.sequence = some place :=
  (h.owner_iff _ _).mpr ⟨request, hrequest, hopen, rfl⟩

/-- No two open requests have the same number. -/
theorem place_eq (h : bridge.Agrees) {place place' : Nat} {request request' : Request}
    (hrequest : bridge.requests[place]? = some request) (hopen : request.completed = false)
    (hrequest' : bridge.requests[place']? = some request') (hopen' : request'.completed = false)
    (hsequence : request.sequence = request'.sequence) : place = place' := by
  have hlookup := h.lookup hrequest hopen
  rw [hsequence, h.lookup hrequest' hopen'] at hlookup
  exact (Option.some.inj hlookup).symm

theorem session_of_open (h : bridge.Agrees) {place : Nat} {request : Request}
    (hrequest : bridge.requests[place]? = some request) (hopen : request.completed = false) :
    ∃ session, request.session = some session := by
  have hheld := h.held place request hrequest
  rw [hopen] at hheld
  exact Option.isSome_iff_exists.mp hheld

theorem new (dialect : Dialect) (settings : Settings) (link : Link) :
    (Bridge.new dialect settings link).Agrees where
  sound := Registry.sound_startingAt _
  owner_iff n place := by simp [Bridge.new]
  held place request hrequest := by simp [Bridge.new] at hrequest
  inRange place request hrequest := by simp [Bridge.new] at hrequest

theorem tell (h : bridge.Agrees) (place : Nat) (request : Request) (notice : Notice) :
    (bridge.tell place request notice).Agrees :=
  ⟨h.sound, h.owner_iff, h.held, h.inRange⟩

/-- A change of a request that leaves alone what agreement is about. -/
theorem modifyRequest (h : bridge.Agrees) (place : Nat) {change : Request → Request}
    (hsequence : ∀ request, (change request).sequence = request.sequence)
    (hcompleted : ∀ request, (change request).completed = request.completed)
    (hsession : ∀ request, (change request).session = request.session) :
    (bridge.modifyRequest place change).Agrees := by
  -- A request afterwards is one from before, in all that matters.
  have hbefore : ∀ (q : Nat) (request' : Request),
      (bridge.modifyRequest place change).requests[q]? = some request' →
        ∃ request, bridge.requests[q]? = some request ∧ request'.sequence = request.sequence ∧
          request'.completed = request.completed ∧ request'.session = request.session := by
    intro q request' hrequest'
    obtain ⟨request, hrequest, rfl⟩ :=
      (requests_modifyRequest_eq_some_iff bridge place change).mp hrequest'
    refine ⟨request, hrequest, ?_⟩
    split
    · exact ⟨hsequence request, hcompleted request, hsession request⟩
    · exact ⟨rfl, rfl, rfl⟩
  refine ⟨h.sound, fun n q => (h.owner_iff n q).trans ⟨?_, ?_⟩, ?_, ?_⟩
  · intro howner
    obtain ⟨request, hrequest, hopen, hn⟩ := howner
    refine ⟨_, (requests_modifyRequest_eq_some_iff bridge place change).mpr
      ⟨request, hrequest, rfl⟩, ?_⟩
    split
    · exact ⟨(hcompleted request).trans hopen, (hsequence request).trans hn⟩
    · exact ⟨hopen, hn⟩
  · intro howner
    obtain ⟨request', hrequest', hopen, hn⟩ := howner
    obtain ⟨request, hrequest, hs, hc, -⟩ := hbefore q request' hrequest'
    exact ⟨request, hrequest, hc.symm.trans hopen, hs.symm.trans hn⟩
  · intro q request' hrequest'
    obtain ⟨request, hrequest, -, hc, hsess⟩ := hbefore q request' hrequest'
    rw [hsess, hc]
    exact h.held q request hrequest
  · intro q request' hrequest'
    obtain ⟨request, hrequest, hs, -, -⟩ := hbefore q request' hrequest'
    rw [hs]
    exact h.inRange q request hrequest

/-- A new request under a number that was free. -/
theorem register (h : bridge.Agrees) {n : Int32} {registry : Registry Nat} (command : Command)
    (session : Session)
    (halloc : bridge.registry.allocate? (fun _ => bridge.requests.length) = some (n, registry)) :
    Agrees { bridge with
      registry, requests := bridge.requests ++ [bridge.fresh command session n] } := by
  have hfree : bridge.registry.lookup n = none := by
    simpa [Registry.contains] using Registry.contains_eq_false_of_allocate? halloc
  refine ⟨Registry.Sound.of_allocate? halloc h.sound, fun m q => ?_, ?_, ?_⟩
  -- The new number had no owner and has one now; all other numbers keep theirs.
  · simp only [requests_concat_eq_some_iff]
    by_cases hm : m = n
    · subst hm
      rw [Registry.lookup_self_of_allocate? halloc]
      constructor
      · intro hq
        obtain rfl := Option.some.inj hq
        exact ⟨_, Or.inr ⟨rfl, rfl⟩, rfl, rfl⟩
      · intro howner
        obtain ⟨request, hrequest | ⟨rfl, rfl⟩, hopen, hn⟩ := howner
        · have howner := (h.owner_iff m q).mpr ⟨request, hrequest, hopen, hn⟩
          rw [hfree] at howner
          exact absurd howner (by simp)
        · rfl
    · rw [Registry.lookup_of_allocate?_of_ne halloc hm, h.owner_iff]
      constructor
      · intro howner
        obtain ⟨request, hrequest, hopen, hn⟩ := howner
        exact ⟨request, Or.inl hrequest, hopen, hn⟩
      · intro howner
        obtain ⟨request, hrequest | ⟨rfl, rfl⟩, hopen, hn⟩ := howner
        · exact ⟨request, hrequest, hopen, hn⟩
        · exact absurd hn.symm hm
  · intro q request hrequest
    rcases requests_concat_eq_some_iff.mp hrequest with hrequest | ⟨rfl, rfl⟩
    · exact h.held q request hrequest
    · rfl
  · intro q request hrequest
    rcases requests_concat_eq_some_iff.mp hrequest with hrequest | ⟨rfl, rfl⟩
    · exact h.inRange q request hrequest
    · exact Registry.inRange_of_allocate? halloc h.sound

/-- Whoever is still found after the number of an open request was released is another one. -/
theorem lookup_release_iff (h : bridge.Agrees) {place : Nat} {request : Request}
    (hrequest : bridge.requests[place]? = some request) (hopen : request.completed = false)
    {n : Int32} {q : Nat} :
    (bridge.registry.release request.sequence).lookup n = some q ↔
      q ≠ place ∧ bridge.registry.lookup n = some q := by
  by_cases hn : n = request.sequence
  · subst hn
    rw [Registry.lookup_release_self, h.lookup hrequest hopen]
    simp [eq_comm]
  · rw [Registry.lookup_release_of_ne _ hn]
    refine ⟨fun howner => ⟨fun hq => ?_, howner⟩, And.right⟩
    obtain ⟨request', hrequest', -, hn'⟩ := (h.owner_iff n q).mp howner
    rw [hq, hrequest] at hrequest'
    exact hn (Option.some.inj hrequest' ▸ hn').symm

/-- **The end of a request** releases its number and nobody else's. -/
theorem retire (h : bridge.Agrees) {place : Nat} {request : Request}
    (hrequest : bridge.requests[place]? = some request) (hopen : request.completed = false) :
    (bridge.retire place request).Agrees := by
  refine ⟨h.sound.release _, fun n q => ?_, ?_, ?_⟩
  · show (bridge.registry.release request.sequence).lookup n = some q ↔
      ∃ request', (bridge.modifyRequest place Request.complete).requests[q]? = some request' ∧ _
    -- Of the owners only the request itself is gone, and it is the only one that is no longer open.
    rw [h.lookup_release_iff hrequest hopen, h.owner_iff]
    simp only [requests_modifyRequest_eq_some_iff]
    constructor
    · intro howner
      obtain ⟨hne, request', hrequest', hopen', hn⟩ := howner
      exact ⟨request', ⟨request', hrequest', (if_neg hne).symm⟩, hopen', hn⟩
    · intro howner
      obtain ⟨request', ⟨before, hbefore, rfl⟩, hopen', hn⟩ := howner
      by_cases hq : q = place
      · rw [if_pos hq] at hopen'
        exact absurd hopen' (by simp [Request.complete])
      · rw [if_neg hq] at hopen' hn
        exact ⟨hq, before, hbefore, hopen', hn⟩
  · intro q request' hrequest'
    obtain ⟨before, hbefore, rfl⟩ :=
      (requests_modifyRequest_eq_some_iff bridge place Request.complete).mp hrequest'
    split
    · rfl
    · exact h.held q before hbefore
  · intro q request' hrequest'
    obtain ⟨before, hbefore, rfl⟩ :=
      (requests_modifyRequest_eq_some_iff bridge place Request.complete).mp hrequest'
    split
    · exact h.inRange q before hbefore
    · exact h.inRange q before hbefore

end Agrees

/-- **Every move keeps agreement.** -/
theorem Move.agrees {place : Nat} {bridge after : Bridge} (hmove : Move place bridge after)
    (h : bridge.Agrees) : after.Agrees := by
  cases hmove with
  | register command session halloc => exact h.register command session halloc
  | record text => exact h.modifyRequest _ (fun _ => rfl) (fun _ => rfl) (fun _ => rfl)
  | hear hrequest hopen text =>
      exact h.modifyRequest _ (fun _ => rfl) (fun _ => rfl) (fun _ => rfl)
  | relay hrequest hopen timeToComplete =>
      refine (h.modifyRequest place ?_ ?_ ?_).tell _ _ _ <;> exact fun _ => rfl
  | retire hrequest hopen outcome => exact (h.retire hrequest hopen).tell _ _ _
  | surroundings link running => exact ⟨h.sound, h.owner_iff, h.held, h.inRange⟩

theorem Moves.agrees {touched : Nat → Prop} {bridge after : Bridge}
    (hmoves : Moves touched bridge after) (h : bridge.Agrees) : after.Agrees :=
  hmoves.induction (fun _ _ _ hmove _ => hmove.agrees) h

/-- **Frame.** An owner that is not touched keeps its number. -/
theorem Moves.lookup_of_not_touched {touched : Nat → Prop} {bridge after : Bridge}
    (hmoves : Moves touched bridge after) (h : bridge.Agrees) {n : Int32} {q : Nat}
    (hq : ¬touched q) (howner : bridge.registry.lookup n = some q) :
    after.registry.lookup n = some q := by
  obtain ⟨request, hrequest, hopen, hn⟩ := (h.owner_iff n q).mp howner
  rw [← hmoves.request_of_not_touched hq] at hrequest
  exact ((hmoves.agrees h).owner_iff n q).mpr ⟨request, hrequest, hopen, hn⟩

/-- Moves about requests that are there give no number away. -/
theorem Moves.lookup_of_lookup {touched : Nat → Prop} {bridge after : Bridge}
    (hmoves : Moves touched bridge after) (h : bridge.Agrees)
    (htouched : ∀ q, touched q → q < bridge.requests.length) {n : Int32} {q : Nat}
    (howner : after.registry.lookup n = some q) : bridge.registry.lookup n = some q := by
  obtain ⟨request', hrequest', hopen, rfl⟩ := ((hmoves.agrees h).owner_iff n q).mp howner
  obtain ⟨request, hrequest, hprogress⟩ := hmoves.exists_before htouched hrequest'
  rw [hprogress.sequence]
  refine h.lookup hrequest (Bool.eq_false_iff.mpr fun hcompleted => ?_)
  rw [hprogress.completed hcompleted] at hopen
  exact absurd hopen (by simp)

end Bridge

end TelescopeLink
