import TelescopeLink.Proofs.Bridge.Operations

/-!
# Who owns which number

The main result of agreement, for whole runs: after every step, the numbers in use are those of the
open requests, one each, and the end of a request releases no number but its own — also if the
request ended long ago and its number has passed to another one since.
-/

namespace TelescopeLink

namespace Bridge

/-- How many requests are open. -/
def openCount (bridge : Bridge) : Nat := bridge.requests.countP (!·.completed)

namespace Agrees

variable {bridge : Bridge}

/-- The places in the registry are all different. -/
theorem nodup_owners (h : bridge.Agrees) : (bridge.registry.entries.map (·.2)).Nodup := by
  have hnodup : bridge.registry.entries.Nodup := h.sound.nodup.of_map _
  refine (List.nodup_map_iff_inj_on hnodup).mpr ?_
  intro (n, place) hmem (n', place') hmem' hplace
  obtain rfl : place = place' := hplace
  obtain ⟨request, hrequest, -, rfl⟩ :=
    (h.owner_iff n place).mp (h.sound.mem_entries_iff.mp hmem)
  obtain ⟨request', hrequest', -, rfl⟩ :=
    (h.owner_iff n' place).mp (h.sound.mem_entries_iff.mp hmem')
  rw [hrequest] at hrequest'
  rw [Option.some.inj hrequest']

theorem mem_owners_iff (h : bridge.Agrees) {place : Nat} :
    place ∈ bridge.registry.entries.map (·.2) ↔
      ∃ request, bridge.requests[place]? = some request ∧ request.completed = false := by
  rw [List.mem_map]
  constructor
  · intro howner
    obtain ⟨⟨n, place⟩, hmem, rfl⟩ := howner
    obtain ⟨request, hrequest, hopen, -⟩ :=
      (h.owner_iff n place).mp (h.sound.mem_entries_iff.mp hmem)
    exact ⟨request, hrequest, hopen⟩
  · intro hplace
    obtain ⟨request, hrequest, hopen⟩ := hplace
    exact ⟨(request.sequence, place), h.sound.mem_entries_iff.mpr (h.lookup hrequest hopen), rfl⟩

/-- As many numbers are in use as requests are open: the owners are the places of open requests. -/
theorem outstanding_eq (h : bridge.Agrees) : bridge.outstanding = bridge.openCount := by
  have hnodup : ((bridge.requests.zipIdx.filter (!·.1.completed)).map (·.2)).Nodup := by
    refine (List.Sublist.map _ List.filter_sublist).nodup ?_
    rw [List.zipIdx_map_snd]
    exact List.nodup_range'
  -- Owners are listed by number and requests by place, but they are the same ones, each once.
  have hperm : (bridge.registry.entries.map (·.2)).Perm
      ((bridge.requests.zipIdx.filter (!·.1.completed)).map (·.2)) := by
    refine (List.perm_ext_iff_of_nodup h.nodup_owners hnodup).mpr fun place => ?_
    rw [h.mem_owners_iff, List.mem_map]
    constructor
    · intro hplace
      obtain ⟨request, hrequest, hopen⟩ := hplace
      refine ⟨(request, place), List.mem_filter.mpr ⟨?_, by simp [hopen]⟩, rfl⟩
      exact List.mem_zipIdx_iff_getElem?.mpr hrequest
    · intro hplace
      obtain ⟨⟨request, place⟩, hmem, rfl⟩ := hplace
      obtain ⟨hmem, hopen⟩ := List.mem_filter.mp hmem
      exact ⟨request, List.mem_zipIdx_iff_getElem?.mp hmem, by simpa using hopen⟩
  have hcount : (bridge.requests.zipIdx.filter (!·.1.completed)).length = bridge.openCount := by
    rw [openCount, ← List.countP_eq_length_filter]
    calc bridge.requests.zipIdx.countP (!·.1.completed)
        = (bridge.requests.zipIdx.map (·.1)).countP (!·.completed) := by
          rw [List.countP_map]
          rfl
      _ = bridge.requests.countP (!·.completed) := by rw [List.zipIdx_map_fst]
  have hlength := hperm.length_eq
  rw [List.length_map, List.length_map, hcount] at hlength
  exact hlength

/-- As long as a number is free, a request can be created. -/
theorem exists_create (h : bridge.Agrees) (hfree : bridge.outstanding < Registry.numberCount)
    (command : Command) (session : Session) :
    ∃ place after, bridge.create command session = some (place, after) := by
  obtain ⟨n, registry, halloc⟩ := Registry.exists_allocate? h.sound hfree fun _ =>
    bridge.requests.length
  exact ⟨_, _, create_eq_some_iff.mpr ⟨rfl, n, registry, halloc, rfl⟩⟩

/-- The end of one request leaves the numbers of all others alone. -/
theorem lookup_finish_of_ne (h : bridge.Agrees) {place other : Nat} {n : Int32}
    (hne : other ≠ place) (howner : bridge.registry.lookup n = some other) (outcome : Outcome) :
    (bridge.finish place outcome).1.registry.lookup n = some other := by
  refine (finish_moves h place outcome).lookup_of_not_touched h ?_ howner
  obtain ⟨request, hrequest, -, -⟩ := (h.owner_iff n other).mp howner
  have hlt := (List.getElem?_eq_some_iff.mp hrequest).1
  rintro (heq | ⟨-, hle⟩)
  · exact hne heq
  · omega

end Agrees

/-- **The numbers in use are those of the open requests**, after every run from a new bridge: a
request is open exactly if its number leads to it, every entry of the registry is an open request
under its own number, all numbers in use are in range, and no two open requests share one. So an
end, whenever it comes and whoever has the number by then, takes no other request's number away; as
many numbers are in use as requests are open; and while one is free, a request can be created. -/
theorem run_owns_numbers (dialect : Dialect) (settings : Settings) (link : Link)
    (steps : List Step) :
    let bridge := (Bridge.new dialect settings link).run steps
    (∀ (place : Nat) (request : Request), bridge.requests[place]? = some request →
      (request.completed = false ↔ bridge.registry.lookup request.sequence = some place)) ∧
    (∀ n place, bridge.registry.lookup n = some place →
      ∃ request, bridge.requests[place]? = some request ∧ request.completed = false ∧
        request.sequence = n) ∧
    (∀ n, bridge.registry.contains n = true → 0 ≤ n ∧ n < Int32.maxValue) ∧
    (∀ (place place' : Nat) (request request' : Request),
      bridge.requests[place]? = some request → request.completed = false →
      bridge.requests[place']? = some request' → request'.completed = false →
      request.sequence = request'.sequence → place = place') ∧
    (∀ place other n outcome, other ≠ place → bridge.registry.lookup n = some other →
      (bridge.finish place outcome).1.registry.lookup n = some other) ∧
    bridge.outstanding = bridge.openCount ∧
    (bridge.outstanding < Registry.numberCount →
      ∀ command session, (bridge.create command session).isSome = true) := by
  intro bridge
  have h : bridge.Agrees := run_agrees dialect settings link steps
  refine ⟨fun place request hrequest => ⟨h.lookup hrequest, fun howner => ?_⟩,
    fun n place => (h.owner_iff n place).mp, fun n hn => ?_,
    fun _ _ _ _ hrequest hopen hrequest' hopen' => h.place_eq hrequest hopen hrequest' hopen',
    fun _ _ _ outcome hne howner => h.lookup_finish_of_ne hne howner outcome, h.outstanding_eq,
    fun hfree command session => ?_⟩
  · obtain ⟨request', hrequest', hopen, -⟩ := (h.owner_iff _ place).mp howner
    rw [hrequest] at hrequest'
    exact Option.some.inj hrequest' ▸ hopen
  · exact h.sound.numbers n (Registry.contains_iff_mem_numbers.mp hn)
  · obtain ⟨place, after, hcreate⟩ := h.exists_create hfree command session
    rw [hcreate]
    rfl

end Bridge

end TelescopeLink
