import TelescopeLink.Proofs.Registry.Allocation

/-!
# A number comes back after a lap

Between two allocations of one number the counter goes round: it visits every other number, to hand
it out or to pass over its owner (`visits_of_reallocated`), and the number itself has been released
(`release_mem_of_reallocated`).

The argument keeps the counter as a position on the cycle. Every operation moves it some steps on,
an allocation at least one, and each number on the way is visited (`exists_travel`); who starts and
ends at the same number has gone whole laps, and a lap leaves nothing out.
-/

namespace TelescopeLink

namespace Registry

variable {α : Type}

/-! ### Histories -/

/-- One thing done to a registry. -/
inductive Op (α : Type)
  | allocate (owner : Int32 → α)
  | release (n : Int32)

/-- The registry after one thing done to it; an allocation in vain leaves it as it is. -/
def act (registry : Registry α) : Op α → Registry α
  | .allocate owner => ((registry.allocate? owner).map (·.2)).getD registry
  | .release n => registry.release n

/-- The registry after things done to it in order. -/
def after (registry : Registry α) (ops : List (Op α)) : Registry α := ops.foldl act registry

@[simp] theorem after_nil (registry : Registry α) : registry.after [] = registry := rfl

@[simp] theorem after_cons (registry : Registry α) (op : Op α) (ops : List (Op α)) :
    registry.after (op :: ops) = (registry.act op).after ops := rfl

theorem after_append (registry : Registry α) (ops ops' : List (Op α)) :
    registry.after (ops ++ ops') = (registry.after ops).after ops' :=
  List.foldl_append ..

/-- An allocation finds a number or leaves the registry as it is. -/
theorem act_allocate (registry : Registry α) (owner : Int32 → α) :
    (∃ n, registry.allocate? owner = some (n, registry.act (.allocate owner))) ∨
      registry.act (.allocate owner) = registry := by
  rw [act]
  cases h : registry.allocate? owner with
  | none => exact Or.inr rfl
  | some pair => exact Or.inl ⟨pair.1, rfl⟩

theorem Sound.act {registry : Registry α} (h : registry.Sound) (op : Op α) :
    (registry.act op).Sound := by
  cases op with
  | allocate owner =>
      rcases act_allocate registry owner with ⟨n, hn⟩ | hsame
      · exact Sound.of_allocate? hn h
      · rw [hsame]
        exact h
  | release n => exact h.release n

theorem Sound.after {registry : Registry α} (h : registry.Sound) (ops : List (Op α)) :
    (registry.after ops).Sound := by
  induction ops generalizing registry with
  | nil => exact h
  | cons op ops ih => exact ih (h.act op)

/-- While the operations are done, the counter comes to `m`: some allocation hands `m` out, or on
its way to another number it passes over `m`, which has an owner at that moment. -/
def Visits (registry : Registry α) (ops : List (Op α)) (m : Int32) : Prop :=
  ∃ earlier owner later n next, ops = earlier ++ .allocate owner :: later ∧
    (registry.after earlier).allocate? owner = some (n, next) ∧
      (m = n ∨ (registry.after earlier).contains m = true ∧ m ∈ (registry.after earlier).passedOver)

theorem Visits.append_right {registry : Registry α} {ops : List (Op α)} {m : Int32}
    (h : registry.Visits ops m) (ops' : List (Op α)) : registry.Visits (ops ++ ops') m := by
  obtain ⟨earlier, owner, later, n, next, rfl, halloc, hm⟩ := h
  exact ⟨earlier, owner, later ++ ops', n, next, by simp, halloc, hm⟩

theorem Visits.append_left {registry : Registry α} {ops' : List (Op α)} {m : Int32}
    (ops : List (Op α)) (h : (registry.after ops).Visits ops' m) :
    registry.Visits (ops ++ ops') m := by
  obtain ⟨earlier, owner, later, n, next, rfl, halloc, hm⟩ := h
  rw [← after_append] at halloc hm
  exact ⟨ops ++ earlier, owner, later, n, next, by simp, halloc, hm⟩

/-- One allocation visits every number on its way. -/
theorem visits_of_allocate? {registry next : Registry α} {owner : Int32 → α} {n : Int32}
    (h : registry.allocate? owner = some (n, next)) :
    ∃ k, n = following^[k + 1] registry.last ∧
      ∀ t, 0 < t → t ≤ k + 1 → registry.Visits [.allocate owner] (following^[t] registry.last) := by
  obtain ⟨k, hn, hpassed⟩ := exists_walk_of_allocate? h
  refine ⟨k, hn, fun t hpos hle => ⟨[], owner, [], n, next, rfl, h, ?_⟩⟩
  rcases Nat.lt_or_ge t (k + 1) with hlt | hge
  · have hmem : following^[t] registry.last ∈ registry.passedOver := by
      rw [hpassed, List.mem_iterate]
      exact ⟨t - 1, by omega, by rw [← Function.iterate_succ_apply, Nat.succ_eq_add_one,
        Nat.sub_add_cancel (Nat.succ_le_of_lt hpos)]⟩
    exact Or.inr ⟨contains_of_mem_passedOver hmem, hmem⟩
  · exact Or.inl (by rw [hn, Nat.le_antisymm hle hge])

/-- **The counter only walks.** Operations move it so many steps on, and it visits every number on
the way. -/
theorem exists_travel (registry : Registry α) (ops : List (Op α)) :
    ∃ distance, (registry.after ops).last = following^[distance] registry.last ∧
      ∀ t, 0 < t → t ≤ distance → registry.Visits ops (following^[t] registry.last) := by
  induction ops generalizing registry with
  | nil => exact ⟨0, rfl, fun t hpos hle => absurd hpos (by omega)⟩
  | cons op ops ih =>
      obtain ⟨rest, hlast, hrest⟩ := ih (registry.act op)
      -- What the first operation does to the counter, then the walk of the others on top.
      obtain ⟨first, hfirst, hvisits⟩ : ∃ first,
          (registry.act op).last = following^[first] registry.last ∧
            ∀ t, 0 < t → t ≤ first → registry.Visits [op] (following^[t] registry.last) := by
        cases op with
        | allocate owner =>
            rcases act_allocate registry owner with ⟨n, hn⟩ | hsame
            · obtain ⟨k, hk, hvisits⟩ := visits_of_allocate? hn
              exact ⟨k + 1, by rw [last_of_allocate? hn, hk], hvisits⟩
            · exact ⟨0, by rw [hsame]; rfl, fun t hpos hle => absurd hpos (by omega)⟩
        | release n => exact ⟨0, rfl, fun t hpos hle => absurd hpos (by omega)⟩
      refine ⟨rest + first, ?_, fun t hpos hle => ?_⟩
      · rw [after_cons, hlast, hfirst, ← Function.iterate_add_apply]
      · rcases Nat.lt_or_ge first t with hlt | hge
        · have hvisit := hrest (t - first) (by omega) (by omega)
          rw [hfirst, ← Function.iterate_add_apply, Nat.sub_add_cancel hlt.le] at hvisit
          exact Visits.append_left [op] hvisit
        · exact (hvisits t hpos hge).append_right ops

/-- An owned number that is not released keeps an owner. -/
theorem contains_after_of_not_release {registry : Registry α} {n : Int32} {ops : List (Op α)}
    (h : registry.contains n = true) (hkept : .release n ∉ ops) :
    (registry.after ops).contains n = true := by
  induction ops generalizing registry with
  | nil => exact h
  | cons op ops ih =>
      rw [List.mem_cons, not_or] at hkept
      refine ih ?_ hkept.2
      cases op with
      | allocate owner =>
          rcases act_allocate registry owner with ⟨m, hm⟩ | hsame
          · rw [contains] at h ⊢
            by_cases hnm : n = m
            · rw [hnm, lookup_self_of_allocate? hm]
              rfl
            · rw [lookup_of_allocate?_of_ne hm hnm]
              exact h
          · rw [hsame]
            exact h
      | release m =>
          have hne : n ≠ m := fun heq => hkept.1 (heq ▸ rfl)
          rw [act, contains, lookup_release_of_ne registry hne]
          exact h

section Reallocated

variable {registry first last : Registry α} {n : Int32} {owner owner' : Int32 → α}
  {between : List (Op α)} (hfirst : registry.allocate? owner = some (n, first))
  (hlast : (first.after between).allocate? owner' = some (n, last))
include hfirst hlast

/-- A number that is handed out twice has been released in between. -/
theorem release_mem_of_reallocated : .release n ∈ between := by
  by_contra hkept
  have howned : first.contains n = true := by
    rw [contains, lookup_self_of_allocate? hfirst]
    rfl
  have hstill := contains_after_of_not_release howned hkept
  rw [contains_eq_false_of_allocate? hlast] at hstill
  exact absurd hstill (by simp)

/-- **No number comes back before a full lap**: between two allocations of one number, the counter
visits all others. -/
theorem visits_of_reallocated (hsound : registry.Sound) {m : Int32} (hm : InRange m) :
    first.Visits (between ++ [.allocate owner']) m := by
  have hn := inRange_of_allocate? hfirst hsound
  obtain ⟨distance, hthere, hvisits⟩ := exists_travel first between
  obtain ⟨k, hback, hvisits'⟩ := visits_of_allocate? hlast
  rw [last_of_allocate? hfirst] at hthere hvisits
  rw [hthere, ← Function.iterate_add_apply] at hback
  -- The walk leads back to its start, so it is at least a lap, and `m` is on it.
  have hlap : numberCount ≤ k + 1 + distance :=
    Nat.le_of_dvd (by omega) (numberCount_dvd_of_iterate_eq_self hn hback.symm)
  have hle := (stride_le (m := n) hm).trans hlap
  have hwalk := iterate_stride hn hm
  rcases Nat.lt_or_ge distance (stride n m) with hlt | hge
  · have hvisit := hvisits' (stride n m - distance) (by omega) (by omega)
    rw [hthere, ← Function.iterate_add_apply, Nat.sub_add_cancel hlt.le, hwalk] at hvisit
    exact hvisit.append_left between
  · have hvisit := hvisits (stride n m) (stride_pos hn) hge
    rw [hwalk] at hvisit
    exact hvisit.append_right _

end Reallocated

/-! ### One number at a time -/

/-- Numbers handed out one after another from the one behind `n` on, each released at once. -/
def rounds (owner : Int32 → α) : (count : Nat) → (n : Int32) → List (Op α)
  | 0, _ => []
  | count + 1, n => .allocate owner :: .release (following n) :: rounds owner count (following n)

theorem allocate?_of_entries_eq_nil (n : Int32) (owner : Int32 → α) :
    (⟨n, []⟩ : Registry α).allocate? owner =
      some (following n, ⟨following n, [(following n, owner (following n))]⟩) := rfl

/-- **A registry without owners hands out every number in turn.** -/
theorem after_rounds (owner : Int32 → α) (count : Nat) (n : Int32) :
    (⟨n, []⟩ : Registry α).after (rounds owner count n) = ⟨following^[count] n, []⟩ := by
  induction count generalizing n with
  | zero => rfl
  | succ count ih =>
      have hround : ((⟨n, []⟩ : Registry α).act (.allocate owner)).act (.release (following n)) =
          ⟨following n, []⟩ := by
        show (⟨following n, [(following n, owner (following n))]⟩ : Registry α).release _ = _
        simp [Registry.release]
      rw [rounds, after_cons, after_cons, hround, ih, Function.iterate_succ_apply]

end Registry

end TelescopeLink
