import Mathlib.Data.List.Iterate
import Mathlib.Data.List.TakeWhile
import TelescopeLink.Proofs.Registry.Cycle

/-!
# Allocation

A registry is `Sound` if its counter and its numbers are in range and no number has two owners; new
registries are, and all operations keep it. What an allocation does is said once, by
`allocate?_eq_some_iff`, and read off from it: the number was free, it belongs to its owner
afterwards, nobody else is affected, and the counter has moved to it over owned numbers only
(`exists_walk_of_allocate?`), as many as lie between (`stride_of_allocate?`).
-/

namespace TelescopeLink

namespace Registry

variable {α : Type}

/-! ### Registries in order -/

/-- The counter and all owned numbers are in range, and no number has two owners. -/
structure Sound (registry : Registry α) : Prop where
  last : InRange registry.last
  numbers : ∀ n ∈ registry.numbers, InRange n
  nodup : registry.numbers.Nodup

/-- Every start is folded into the range, a negative one to zero. -/
theorem inRange_fold (start : Int32) :
    InRange ((if start < 0 then 0 else start) % Int32.maxValue) := by
  rw [inRange_iff, Int32.toInt_mod, toInt_maxValue_eq]
  have hnonneg : 0 ≤ (if start < 0 then 0 else start).toInt := by
    split
    · exact le_rfl
    · rename_i h
      exact Int32.le_iff_toInt_le.mp (Int32.not_lt.mp h)
  exact ⟨Int.tmod_nonneg _ hnonneg, Int.tmod_lt_of_pos _ (by decide)⟩

/-- A new registry is sound, wherever it starts. -/
theorem sound_startingAt (start : Int32) : (startingAt start : Registry α).Sound where
  last := inRange_fold start
  numbers := by simp [startingAt, numbers]
  nodup := by simp [startingAt, numbers]

/-- In a sound registry, to be registered and to be found are the same. -/
theorem Sound.mem_entries_iff {registry : Registry α} (h : registry.Sound) {n : Int32}
    {owner : α} : (n, owner) ∈ registry.entries ↔ registry.lookup n = some owner := by
  rw [lookup, List.lookup_eq_some_iff]
  constructor
  · intro hmem
    obtain ⟨before, rest, heq⟩ := List.append_of_mem hmem
    refine ⟨before, rest, heq, fun entry hentry => ?_⟩
    have hnodup := h.nodup
    rw [Registry.numbers, heq, List.map_append, List.nodup_append] at hnodup
    have hne := hnodup.2.2 entry.1 (List.mem_map_of_mem hentry) n (by simp)
    simpa using hne.symm
  · intro hlookup
    obtain ⟨before, rest, heq, -⟩ := hlookup
    rw [heq]
    simp

theorem numbers_release (registry : Registry α) (n : Int32) :
    (registry.release n).numbers = registry.numbers.filter (· != n) := by
  rw [numbers, numbers, release, List.filter_map]
  rfl

theorem numbers_put (registry : Registry α) (n : Int32) (owner : α) :
    (registry.put n owner).numbers = registry.numbers.filter (· != n) ++ [n] := by
  rw [numbers, numbers, put, List.filter_map, List.map_append]
  rfl

theorem Sound.release {registry : Registry α} (h : registry.Sound) (n : Int32) :
    (registry.release n).Sound where
  last := h.last
  numbers m hm := by
    rw [numbers_release] at hm
    exact h.numbers m (List.mem_filter.mp hm).1
  nodup := by
    rw [numbers_release]
    exact h.nodup.filter _

theorem Sound.put {registry : Registry α} (h : registry.Sound) {n : Int32} (hn : InRange n)
    (owner : α) : (registry.put n owner).Sound where
  last := h.last
  numbers m hm := by
    rw [numbers_put] at hm
    rcases List.mem_append.mp hm with hm | hm
    · exact h.numbers m (List.mem_filter.mp hm).1
    · exact List.mem_singleton.mp hm ▸ hn
  nodup := by
    rw [numbers_put, List.nodup_append]
    refine ⟨h.nodup.filter _, List.nodup_singleton n, ?_⟩
    intro m hm k hk
    have hne : m ≠ n := by simpa using (List.mem_filter.mp hm).2
    exact List.mem_singleton.mp hk ▸ hne

/-! ### Allocation -/

/-- **What an allocation does**: the number is the first free one on the way, and it is registered
for its owner and becomes the last. -/
theorem allocate?_eq_some_iff {registry after : Registry α} {owner : Int32 → α} {n : Int32} :
    registry.allocate? owner = some (n, after) ↔
      registry.nextFree? (registry.size + 1) registry.last = some n ∧
        after = { registry.put n (owner n) with last := n } := by
  rw [allocate?, Option.map_eq_some_iff]
  constructor
  · intro h
    obtain ⟨m, hm, heq⟩ := h
    obtain ⟨rfl, rfl⟩ := Prod.mk.inj heq
    exact ⟨hm, rfl⟩
  · intro h
    obtain ⟨hn, rfl⟩ := h
    exact ⟨n, hn, rfl⟩

/-- Nothing is registered under a free number that would have to be removed. -/
theorem filter_entries_of_free {registry : Registry α} {n : Int32}
    (hfree : registry.contains n = false) :
    registry.entries.filter (·.1 != n) = registry.entries := by
  rw [List.filter_eq_self]
  intro entry hentry
  have hne : entry.1 ≠ n := by
    rintro rfl
    have howned := contains_iff_mem_numbers.mpr (List.mem_map_of_mem hentry)
    rw [hfree] at howned
    exact absurd howned Bool.false_ne_true
  simpa using hne

/-- A free number is registered behind all others. -/
theorem put_of_free {registry : Registry α} {n : Int32} (hfree : registry.contains n = false)
    (owner : α) :
    registry.put n owner = { registry with entries := registry.entries ++ [(n, owner)] } := by
  rw [put, filter_entries_of_free hfree]

/-- **Registering and releasing** a free number leaves no trace. -/
theorem release_put_of_free {registry : Registry α} {n : Int32}
    (hfree : registry.contains n = false) (owner : α) :
    (registry.put n owner).release n = registry := by
  rw [put_of_free hfree, release, List.filter_append, filter_entries_of_free hfree]
  simp

/-- An allocation finds a number unless all are owned. -/
theorem exists_allocate? {registry : Registry α} (hsound : registry.Sound)
    (hsize : registry.size < numberCount) (owner : Int32 → α) :
    ∃ n after, registry.allocate? owner = some (n, after) := by
  obtain ⟨n, hn⟩ := exists_nextFree? hsound.last hsize
  exact ⟨n, _, allocate?_eq_some_iff.mpr ⟨hn, rfl⟩⟩

/-- The owned numbers that the next allocation passes over: of those that it looks at, all before
the first free one. -/
def passedOver (registry : Registry α) : List Int32 :=
  (List.iterate following (following registry.last) (registry.size + 1)).takeWhile registry.contains

theorem contains_of_mem_passedOver {registry : Registry α} {n : Int32}
    (h : n ∈ registry.passedOver) : registry.contains n = true :=
  List.mem_takeWhile_imp h

/-- What is passed over is the way to the first free number. -/
theorem passedOver_eq_iterate {registry : Registry α} {k : Nat} (hk : k < registry.size + 1)
    (hbefore : ∀ i < k, registry.contains (following^[i + 1] registry.last) = true)
    (hfree : registry.contains (following^[k + 1] registry.last) = false) :
    registry.passedOver = List.iterate following (following registry.last) k := by
  have hall : ∀ n ∈ List.iterate following (following registry.last) k,
      registry.contains n = true := by
    intro n hn
    obtain ⟨i, hi, rfl⟩ := List.mem_iterate.mp hn
    exact hbefore i hi
  obtain ⟨rest, hrest⟩ := Nat.exists_eq_succ_of_ne_zero (by omega : registry.size + 1 - k ≠ 0)
  rw [Function.iterate_succ_apply] at hfree
  rw [passedOver, ← Nat.add_sub_cancel' hk.le, List.iterate_add,
    List.takeWhile_append_of_pos hall, hrest, List.iterate,
    List.takeWhile_cons_of_neg (by simp [hfree]), List.append_nil]

section Allocated

variable {registry after : Registry α} {owner : Int32 → α} {n : Int32}
  (h : registry.allocate? owner = some (n, after))
include h

/-- A number that is handed out was free. -/
theorem contains_eq_false_of_allocate? : registry.contains n = false :=
  contains_of_nextFree?_eq_some (allocate?_eq_some_iff.mp h).1

/-- The way of the counter to the number that is handed out leads over owned numbers only. -/
theorem exists_walk_of_allocate? :
    ∃ k, n = following^[k + 1] registry.last ∧
      registry.passedOver = List.iterate following (following registry.last) k := by
  obtain ⟨k, hk, rfl, hfree, hbefore⟩ := nextFree?_eq_some_iff.mp (allocate?_eq_some_iff.mp h).1
  exact ⟨k, rfl, passedOver_eq_iterate hk hbefore hfree⟩

theorem last_of_allocate? : after.last = n := by
  rw [(allocate?_eq_some_iff.mp h).2]

theorem lookup_self_of_allocate? : after.lookup n = some (owner n) := by
  rw [(allocate?_eq_some_iff.mp h).2]
  exact lookup_put_self registry n (owner n)

theorem lookup_of_allocate?_of_ne {m : Int32} (hne : m ≠ n) :
    after.lookup m = registry.lookup m := by
  rw [(allocate?_eq_some_iff.mp h).2]
  exact lookup_put_of_ne registry hne (owner n)

variable (hsound : registry.Sound)
include hsound

theorem inRange_of_allocate? : InRange n := by
  obtain ⟨k, rfl, -⟩ := exists_walk_of_allocate? h
  exact inRange_iterate hsound.last _

theorem Sound.of_allocate? : after.Sound := by
  have hn := inRange_of_allocate? h hsound
  have hput := hsound.put hn (owner n)
  rw [(allocate?_eq_some_iff.mp h).2]
  exact ⟨hn, hput.numbers, hput.nodup⟩

/-- The counter moves by the stride to the number it hands out, past one number less. -/
theorem stride_of_allocate? : stride registry.last n = registry.passedOver.length + 1 := by
  obtain ⟨k, rfl, hpassed⟩ := exists_walk_of_allocate? h
  rw [hpassed, List.length_iterate]
  refine (eq_stride_of_iterate_eq hsound.last (inRange_iterate hsound.last _) k.succ_pos ?_
    rfl).symm
  -- A longer way would have passed over the number itself, a lap before.
  by_contra hlong
  have hcount := numberCount_pos
  have hback : following^[k - numberCount + 1] registry.last = following^[k + 1] registry.last := by
    rw [← position_inj (inRange_iterate hsound.last _) (inRange_iterate hsound.last _),
      position_iterate hsound.last, position_iterate hsound.last,
      show position registry.last + (k + 1) =
        position registry.last + (k - numberCount + 1) + numberCount by omega, Nat.add_mod_right]
  have hmem : following^[k + 1] registry.last ∈ registry.passedOver := by
    rw [hpassed, List.mem_iterate]
    exact ⟨k - numberCount, by omega, by rw [← hback, Function.iterate_succ_apply]⟩
  have howned := contains_of_mem_passedOver hmem
  rw [contains_eq_false_of_allocate? h] at howned
  exact absurd howned Bool.false_ne_true

end Allocated

end Registry

end TelescopeLink
