import TelescopeLink.Proofs.Bridge.Operations
import TelescopeLink.Proofs.Registry.Lap

/-!
# Late replies

A reply may come after its request is over. It finds nobody, as long as its number has not been
handed out again; and that takes a whole lap of the counter.

Requests are never dropped, so the journey of the counter since a request got its number can be read
off the numbers of the requests behind it (`travelSince`). What a run keeps is `Numbered`: the
counter stands at the number of the last request, and a later request can only have the number of an
earlier one if that one is over. A number with an owner is then one that the counter has come back
to (`Numbered.lookup_eq_none`).
-/

namespace TelescopeLink

namespace Bridge

/-- The numbers of all requests, in order of their creation. -/
def sequences (bridge : Bridge) : List Int32 := bridge.requests.map (·.sequence)

/-- How many steps the counter has taken since the request at a place got its number. -/
def travelSince (bridge : Bridge) (place : Nat) : Nat :=
  match bridge.sequences.drop place with
  | [] => 0
  | n :: later => Registry.travel n later

/-- **Numbers pass on** in order. -/
structure Numbered (bridge : Bridge) : Prop where
  /-- The counter stands at the number of the last request. -/
  last : ∀ n, bridge.sequences.getLast? = some n → bridge.registry.last = n
  /-- A number passes to a later request only when the earlier one is over. -/
  passed : ∀ (place later : Nat) (request request' : Request), place < later →
    bridge.requests[place]? = some request → bridge.requests[later]? = some request' →
      request.sequence = request'.sequence → request.completed = true

namespace Numbered

variable {bridge : Bridge}

theorem new (dialect : Dialect) (settings : Settings) (link : Link) :
    (Bridge.new dialect settings link).Numbered where
  last n hn := by simp [Bridge.new, sequences] at hn
  passed place later request request' hlt hrequest := by simp [Bridge.new] at hrequest

/-- A change of a request that keeps its number and opens nothing again. -/
theorem modifyRequest (h : bridge.Numbered) (place : Nat) {change : Request → Request}
    (hsequence : ∀ request, (change request).sequence = request.sequence)
    (hcompleted : ∀ request, request.completed = true → (change request).completed = true) :
    (bridge.modifyRequest place change).Numbered := by
  -- Each request afterwards is one from before with the same number, no more open than it was.
  have hbefore : ∀ (q : Nat) (request' : Request),
      (bridge.modifyRequest place change).requests[q]? = some request' →
        ∃ request, bridge.requests[q]? = some request ∧ request'.sequence = request.sequence ∧
          (request.completed = true → request'.completed = true) := by
    intro q request' hrequest'
    obtain ⟨request, hrequest, rfl⟩ :=
      (requests_modifyRequest_eq_some_iff bridge place change).mp hrequest'
    refine ⟨request, hrequest, ?_⟩
    split
    · exact ⟨hsequence request, hcompleted request⟩
    · exact ⟨rfl, id⟩
  have hsequences : (bridge.modifyRequest place change).sequences = bridge.sequences := by
    refine List.ext_getElem? fun q => ?_
    show ((bridge.requests.modify place change).map _)[q]? = (bridge.requests.map _)[q]?
    rw [List.getElem?_map, List.getElem?_map, List.getElem?_modify]
    cases bridge.requests[q]? with
    | none => rfl
    | some request => by_cases hq : place = q <;> simp [hq, hsequence]
  refine ⟨fun n hn => h.last n (hsequences ▸ hn), ?_⟩
  intro earlier later request request' hlt hrequest hrequest' heq
  obtain ⟨actual, hactual, hs, hc⟩ := hbefore earlier request hrequest
  obtain ⟨actual', hactual', hs', -⟩ := hbefore later request' hrequest'
  exact hc (h.passed earlier later actual actual' hlt hactual hactual'
    (hs.symm.trans (heq.trans hs')))

theorem tell (h : bridge.Numbered) (place : Nat) (request : Request) (notice : Notice) :
    (bridge.tell place request notice).Numbered :=
  ⟨h.last, h.passed⟩

theorem retire (h : bridge.Numbered) (place : Nat) (request : Request) :
    (bridge.retire place request).Numbered := by
  have hover : (bridge.modifyRequest place Request.complete).Numbered :=
    h.modifyRequest place (fun _ => rfl) fun _ _ => rfl
  exact ⟨hover.last, hover.passed⟩

/-- A new request takes a number that the counter has just come to. -/
theorem register (h : bridge.Numbered) (hagrees : bridge.Agrees) {n : Int32}
    {registry : Registry Nat} (command : Command) (session : Session)
    (halloc : bridge.registry.allocate? (fun _ => bridge.requests.length) = some (n, registry)) :
    Numbered { bridge with
      registry, requests := bridge.requests ++ [bridge.fresh command session n] } where
  last m hm := by
    rw [sequences, List.map_append, List.map_singleton, List.getLast?_concat] at hm
    rw [← Option.some.inj hm]
    exact Registry.last_of_allocate? halloc
  passed place later request request' hlt hrequest hrequest' heq := by
    rcases requests_concat_eq_some_iff.mp hrequest with hold | ⟨rfl, -⟩
    · rcases requests_concat_eq_some_iff.mp hrequest' with hold' | ⟨-, rfl⟩
      · exact h.passed place later request request' hlt hold hold' heq
      · -- The number was free, so no open request has it.
        by_contra hopen
        have howner := hagrees.lookup hold (Bool.eq_false_iff.mpr hopen)
        have hfree := Registry.contains_eq_false_of_allocate? halloc
        obtain rfl : request.sequence = n := heq
        rw [Registry.contains, howner] at hfree
        exact absurd hfree (by simp)
    · -- Behind the new request there is none.
      have hlength := (List.getElem?_eq_some_iff.mp hrequest').1
      rw [List.length_append, List.length_singleton] at hlength
      omega

end Numbered

/-- **Every move keeps the order of numbers.** -/
theorem Move.numbered {place : Nat} {bridge after : Bridge} (hmove : Move place bridge after)
    (hagrees : bridge.Agrees) (h : bridge.Numbered) : after.Numbered := by
  cases hmove with
  | register command session halloc => exact h.register hagrees command session halloc
  | record text => exact h.modifyRequest _ (fun _ => rfl) fun _ => id
  | hear hrequest hopen text => exact h.modifyRequest _ (fun _ => rfl) fun _ => id
  | relay hrequest hopen timeToComplete =>
      refine (h.modifyRequest place ?_ ?_).tell _ _ _
      · exact fun _ => rfl
      · exact fun _ => id
  | retire hrequest hopen outcome => exact (h.retire _ _).tell _ _ _
  | surroundings link running => exact ⟨h.last, h.passed⟩

theorem run_numbered (dialect : Dialect) (settings : Settings) (link : Link) (steps : List Step) :
    ((Bridge.new dialect settings link).run steps).Numbered := by
  refine ((run_moves (.new dialect settings link) steps).induction
    (motive := fun bridge => bridge.Agrees ∧ bridge.Numbered) ?_
    ⟨.new dialect settings link, .new dialect settings link⟩).2
  intro place bridge after hmove _ h
  exact ⟨hmove.agrees h.1, hmove.numbered h.1 h.2⟩

/-! ### Who has come round -/

theorem Agrees.inRange_of_mem {bridge : Bridge} (hagrees : bridge.Agrees) {n : Int32}
    (hn : n ∈ bridge.sequences) : Registry.InRange n := by
  obtain ⟨request, hmem, rfl⟩ := List.mem_map.mp hn
  obtain ⟨place, hplace⟩ := List.mem_iff_getElem?.mp hmem
  exact hagrees.inRange place request hplace

section Travel

variable {bridge : Bridge} (hagrees : bridge.Agrees) {place : Nat} {request : Request}
  (hrequest : bridge.requests[place]? = some request)
include hrequest

/-- The numbers from a request on: its own, and those of the requests behind it. -/
theorem sequences_drop : bridge.sequences.drop place =
    request.sequence :: bridge.sequences.drop (place + 1) := by
  obtain ⟨hlt, rfl⟩ := List.getElem?_eq_some_iff.mp hrequest
  have hlength : place < bridge.sequences.length := by
    rw [sequences, List.length_map]
    exact hlt
  rw [List.drop_eq_getElem_cons hlength]
  simp [sequences]

theorem travelSince_eq : bridge.travelSince place =
    Registry.travel request.sequence (bridge.sequences.drop (place + 1)) := by
  rw [travelSince, sequences_drop hrequest]

include hagrees

/-- **The journey is that of the counter**: it leads from the number of the request to the one that
was handed out last. -/
theorem Numbered.last_eq_iterate (h : bridge.Numbered) :
    bridge.registry.last = Registry.following^[bridge.travelSince place] request.sequence := by
  rw [travelSince_eq hrequest, Registry.iterate_travel (hagrees.inRange place request hrequest)
    fun n hn => hagrees.inRange_of_mem (List.mem_of_mem_drop hn)]
  apply h.last
  have hdrop := sequences_drop hrequest
  have hne : bridge.sequences.drop place ≠ [] := by
    rw [hdrop]
    exact List.cons_ne_nil _ _
  have hlast : (bridge.sequences.drop place).getLast? = bridge.sequences.getLast? := by
    rw [List.getLast?_drop, if_neg]
    intro hle
    exact hne (List.drop_eq_nil_iff.mpr hle)
  rw [← hlast, hdrop, List.getLast?_cons, List.getLastD_eq_getLast?]

/-- **A late reply finds nobody** before the counter has come round. -/
theorem Numbered.lookup_eq_none (h : bridge.Numbered) (hcompleted : request.completed = true)
    (htravel : bridge.travelSince place < Registry.numberCount) :
    bridge.registry.lookup request.sequence = none := by
  refine Option.eq_none_iff_forall_ne_some.mpr fun owner howner => ?_
  obtain ⟨request', hrequest', hopen', hsequence⟩ := (hagrees.owner_iff _ _).mp howner
  -- Whoever had the number would be an open request, and none can be, wherever it stands.
  rcases Nat.lt_trichotomy owner place with hlt | heq | hgt
  · -- An earlier request with this number is over.
    have hover := h.passed owner place request' request hlt hrequest' hrequest hsequence
    exact absurd hopen' (by simp [hover])
  · rw [heq, hrequest] at hrequest'
    obtain rfl := Option.some.inj hrequest'
    exact absurd hopen' (by simp [hcompleted])
  · -- To get it to a later one, the counter has gone round.
    have hmem : request.sequence ∈ bridge.sequences.drop (place + 1) := by
      refine List.mem_iff_getElem?.mpr ⟨owner - (place + 1), ?_⟩
      rw [List.getElem?_drop, Nat.add_sub_cancel' hgt, sequences, List.getElem?_map, hrequest',
        Option.map_some, hsequence]
    have hlap := Registry.numberCount_le_travel (hagrees.inRange place request hrequest)
      (fun n hn => hagrees.inRange_of_mem (List.mem_of_mem_drop hn)) hmem
    rw [travelSince_eq hrequest] at htravel
    omega

end Travel

/-- **No number comes back before a full lap, and no late reply finds another request before that.**

In every history of a registry, between two allocations of one number this number was released, and
the counter came to every other one, to hand it out or to pass over its owner. Each allocation moves
the counter to the number that it hands out, past as many owned numbers as lie between.

So on every bridge that a run can lead to, the counter has gone `travelSince` steps since a request
got its number; and if the request is over and these steps are less than a lap, a message with its
number changes nothing, and an event finds no request. -/
theorem late_reply_finds_nobody (α : Type) :
    (∀ (start : Int32) (before between : List (Registry.Op α)) (owner owner' : Int32 → α)
        (n : Int32) (first last : Registry α),
      ((Registry.startingAt start).after before).allocate? owner = some (n, first) →
      (first.after between).allocate? owner' = some (n, last) →
        .release n ∈ between ∧
        ∀ m, Registry.InRange m → m ≠ n → first.Visits (between ++ [.allocate owner']) m) ∧
    (∀ (start : Int32) (before : List (Registry.Op α)) (owner : Int32 → α) (n : Int32)
        (next : Registry α),
      let registry := (Registry.startingAt start).after before
      registry.allocate? owner = some (n, next) →
        next.last = n ∧ Registry.stride registry.last n = registry.passedOver.length + 1) ∧
    ∀ (dialect : Dialect) (settings : Settings) (link : Link) (steps : List Step) (place : Nat)
        (request : Request),
      let bridge := (Bridge.new dialect settings link).run steps
      bridge.requests[place]? = some request →
        bridge.registry.last = Registry.following^[bridge.travelSince place] request.sequence ∧
        (request.completed = true → bridge.travelSince place < Registry.numberCount →
          ∀ message : Message, message.sequence = request.sequence →
            (bridge.dispatch message).1 = bridge ∧
            ∀ event, Event.ofMessage? message = some event →
              (bridge.dispatch message).2 = .noRequest) := by
  refine ⟨?_, ?_, ?_⟩
  · intro start before between owner owner' n first last hfirst hlast
    have hsound := (Registry.sound_startingAt (α := α) start).after before
    exact ⟨Registry.release_mem_of_reallocated hfirst hlast,
      fun m hm _ => Registry.visits_of_reallocated hfirst hlast hsound hm⟩
  · intro start before owner n next registry halloc
    have hsound := (Registry.sound_startingAt start).after before
    exact ⟨Registry.last_of_allocate? halloc, Registry.stride_of_allocate? halloc hsound⟩
  · intro dialect settings link steps place request bridge hrequest
    have hagrees : bridge.Agrees := run_agrees dialect settings link steps
    have hnumbered : bridge.Numbered := run_numbered dialect settings link steps
    refine ⟨hnumbered.last_eq_iterate hagrees hrequest, ?_⟩
    intro hcompleted htravel message hsequence
    have hnone : bridge.registry.lookup message.sequence = none :=
      hsequence ▸ hnumbered.lookup_eq_none hagrees hrequest hcompleted htravel
    -- A message that is an event needs an owner, and any other is ignored.
    cases hevent : Event.ofMessage? message with
    | none =>
        rw [dispatch_of_no_event hevent]
        exact ⟨rfl, fun event heq => absurd heq (by simp)⟩
    | some event =>
        rw [dispatch_of_no_owner hevent hnone]
        exact ⟨rfl, fun _ _ => rfl⟩

/-- A number that comes back after a lap in which every other one was handed out, and a late reply
to a request while the next one is open. -/
theorem late_reply_finds_nobody_after_rounds :
    (∃ (between : List (Registry.Op Unit)) (first last : Registry Unit),
      (Registry.startingAt 0).allocate? (fun _ => ()) = some (1, first) ∧
      (first.after between).allocate? (fun _ => ()) = some (1, last) ∧
      .release 1 ∈ between ∧
      ∀ m, Registry.InRange m → m ≠ 1 →
        first.Visits (between ++ [.allocate fun _ => ()]) m) ∧
    let bridge := (Bridge.new .tcs {} {}).run
      [.create .stop (.single {}), .complete 0 (.done "OK"), .create .stop (.single {})]
    let late : Message := ⟨1, 17, 5, 1, 1, "OK"⟩
    (bridge.dispatch late).1 = bridge ∧ (bridge.dispatch late).2 = .noRequest := by
  obtain ⟨hlap, -, hlate⟩ := late_reply_finds_nobody Unit
  refine ⟨?_, ?_⟩
  · have hfirst : ((Registry.startingAt 0).after []).allocate? (fun _ => ()) =
        some (1, ⟨1, [(1, ())]⟩) := rfl
    have hreleased : (⟨1, [(1, ())]⟩ : Registry Unit).act (.release 1) = ⟨1, []⟩ := rfl
    have hlast : ((⟨1, [(1, ())]⟩ : Registry Unit).after (.release 1 ::
        Registry.rounds (fun _ => ()) (Registry.numberCount - 1) 1)).allocate? (fun _ => ()) =
          some (1, ⟨1, [(1, ())]⟩) := by
      rw [Registry.after_cons, hreleased, Registry.after_rounds,
        Registry.allocate?_of_entries_eq_nil, ← Function.iterate_succ_apply' Registry.following,
        Nat.succ_eq_add_one, Nat.sub_add_cancel Registry.numberCount_pos,
        Registry.iterate_numberCount (by decide)]
    obtain ⟨hrelease, hvisits⟩ := hlap 0 [] _ _ _ 1 _ _ hfirst hlast
    exact ⟨_, _, _, hfirst, hlast, hrelease, hvisits⟩
  · intro bridge late
    have hrequest : bridge.requests[0]? = some
        { sequence := 1, command := .stop, estimate := ⟨10000000000⟩, completed := true,
          session := none } := rfl
    obtain ⟨-, hlate⟩ := hlate .tcs {} {} _ 0 _ hrequest
    obtain ⟨hsame, hresult⟩ := hlate rfl (by decide) late rfl
    exact ⟨hsame, hresult (.done "OK") rfl⟩

end Bridge

end TelescopeLink
