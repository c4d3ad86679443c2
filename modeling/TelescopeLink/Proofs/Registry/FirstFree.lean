import Mathlib.Order.Bounds.Basic
import TelescopeLink.Proofs.Registry.Lap

/-!
# The first free number

An allocation looks at the numbers ahead of the counter, one after the other, and takes the first
that is free. It needs nothing of the registry but a counter in range and one free number: then it
looks at no more than one number above those in use, adds what it hands out behind the other entries
and touches none of these (`allocate?_of_isFirstFree`).

Numbers ahead are counted on the cycle (`ahead`), so what a whole run hands out is arithmetic as long
as the counter meets nobody (`last_after_of_unhindered`). How many numbers are in use at its end is a
balance: each allocation adds one, and each release takes one away that finds its number in use
(`size_after`).
-/

namespace TelescopeLink

namespace Registry

variable {α : Type}

/-! ### The counter -/

/-- Where a new counter stands: at the start, folded into the range. -/
theorem toInt_last_startingAt (start : Int32) :
    (startingAt start : Registry α).last.toInt = max start.toInt 0 % numberCount := by
  have hnonneg : (if start < 0 then 0 else start).toInt = max start.toInt 0 := by
    by_cases h : start < 0
    · rw [if_pos h]
      exact (max_eq_right (Int32.lt_iff_toInt_lt.mp h).le).symm
    · rw [if_neg h]
      exact (max_eq_left (Int32.le_iff_toInt_le.mp (Int32.not_lt.mp h))).symm
  show ((if start < 0 then 0 else start) % Int32.maxValue).toInt = _
  rw [Int32.toInt_mod, toInt_maxValue_eq, hnonneg]
  exact Int.tmod_eq_emod_of_nonneg (le_max_right _ _)

/-- An allocation moves the counter along the cycle, a release not at all. -/
theorem inRange_last_act {registry : Registry α} (h : InRange registry.last) (op : Op α) :
    InRange (registry.act op).last := by
  cases op with
  | allocate owner =>
      rcases act_allocate registry owner with ⟨n, hn⟩ | hsame
      · obtain ⟨k, hk, -⟩ := exists_walk_of_allocate? hn
        rw [last_of_allocate? hn, hk]
        exact inRange_iterate h _
      · rw [hsame]
        exact h
  | release n => exact h

/-- So no run leads the counter out of the range. -/
theorem inRange_last_after {registry : Registry α} (h : InRange registry.last) (ops : List (Op α)) :
    InRange (registry.after ops).last := by
  induction ops generalizing registry with
  | nil => exact h
  | cons op ops ih => exact ih (inRange_last_act h op)

/-! ### Numbers ahead -/

/-- The number so many places ahead of another on the cycle. -/
def ahead (n : Int32) (k : Nat) : Int32 := Int32.ofInt ((n.toInt + k) % numberCount)

/-- Counted with remainders, a place ahead never leaves the 32 bits. -/
theorem toInt_ahead (n : Int32) (k : Nat) :
    (ahead n k).toInt = (n.toInt + k) % numberCount := by
  have hpos : (0 : Int) < numberCount := by exact_mod_cast numberCount_pos
  have hnonneg := Int.emod_nonneg (n.toInt + k) hpos.ne'
  have hlt := Int.emod_lt_of_pos (n.toInt + k) hpos
  refine Int32.toInt_ofInt_of_le ?_ ?_ <;> simp only [numberCount] at hnonneg hlt ⊢ <;> omega

/-- As long as the counter is in range, steps and places are the same. -/
theorem iterate_following {n : Int32} (h : InRange n) (k : Nat) : following^[k] n = ahead n k := by
  refine Int32.toInt_inj.mp ?_
  rw [toInt_ahead, toInt_eq_position (inRange_iterate h k), position_iterate h, toInt_eq_position h]
  exact_mod_cast rfl

theorem inRange_ahead {n : Int32} (h : InRange n) (k : Nat) : InRange (ahead n k) :=
  iterate_following h k ▸ inRange_iterate h k

theorem following_ahead {n : Int32} (h : InRange n) (k : Nat) :
    following (ahead n k) = ahead n (k + 1) := by
  rw [← iterate_following h, ← iterate_following h, Function.iterate_succ_apply']

/-! ### The search -/

/-- The number `k` places ahead of the counter is free, and none before it is. -/
def IsFirstFree (registry : Registry α) (k : Nat) : Prop :=
  IsLeast {j | 1 ≤ j ∧ registry.contains (ahead registry.last j) = false} k

section FirstFree

variable {registry : Registry α} (hlast : InRange registry.last)
include hlast

/-- The search ends at the first free number, if it looks that far. -/
theorem nextFree?_eq_some_iff_isFirstFree {fuel : Nat} {n : Int32} :
    registry.nextFree? fuel registry.last = some n ↔
      ∃ k ≤ fuel, registry.IsFirstFree k ∧ n = ahead registry.last k := by
  rw [nextFree?_eq_some_iff]
  constructor
  · intro h
    obtain ⟨k, hk, rfl, hfree, hbefore⟩ := h
    rw [iterate_following hlast] at hfree ⊢
    refine ⟨k + 1, hk, ⟨⟨k.succ_pos, hfree⟩, ?_⟩, rfl⟩
    rintro j ⟨hpos, hj⟩
    by_contra hlt
    -- An earlier number that is free would have been passed over.
    have howned := hbefore (j - 1) (by omega)
    rw [iterate_following hlast, Nat.sub_add_cancel hpos, hj] at howned
    exact absurd howned Bool.false_ne_true
  · intro h
    obtain ⟨k, hk, ⟨⟨hpos, hfree⟩, hleast⟩, rfl⟩ := h
    refine ⟨k - 1, by omega, ?_⟩
    rw [Nat.sub_add_cancel hpos, iterate_following hlast]
    refine ⟨rfl, hfree, fun i hi => ?_⟩
    rw [iterate_following hlast]
    by_contra hother
    have hle : k ≤ i + 1 := hleast ⟨i.succ_pos, Bool.eq_false_iff.mpr hother⟩
    omega

/-- **The search takes as many looks as the first free number is ahead**, and no fewer do. -/
theorem nextFree?_of_isFirstFree {k : Nat} (hk : registry.IsFirstFree k) (fuel : Nat) :
    registry.nextFree? fuel registry.last =
      if k ≤ fuel then some (ahead registry.last k) else none := by
  by_cases hle : k ≤ fuel
  · rw [if_pos hle]
    exact (nextFree?_eq_some_iff_isFirstFree hlast).mpr ⟨k, hle, hk, rfl⟩
  · rw [if_neg hle, Option.eq_none_iff_forall_ne_some]
    intro n hn
    obtain ⟨j, hj, hfirst, -⟩ := (nextFree?_eq_some_iff_isFirstFree hlast).mp hn
    exact hle (hk.unique hfirst ▸ hj)

/-- One free number is enough for a first one, at most one place ahead of as many as are in use. -/
theorem exists_isFirstFree (hfree : ∃ n, InRange n ∧ registry.contains n = false) :
    ∃ k ≤ registry.size + 1, registry.IsFirstFree k := by
  obtain ⟨n, hn, hnfree⟩ := hfree
  obtain ⟨m, hm⟩ := exists_nextFree?_of_free hlast hn hnfree
  obtain ⟨k, hk, hfirst, -⟩ := (nextFree?_eq_some_iff_isFirstFree hlast).mp hm
  exact ⟨k, hk, hfirst⟩

/-- **An allocation** hands out the first free number, behind all that was registered before. -/
theorem allocate?_of_isFirstFree {k : Nat} (hk : registry.IsFirstFree k)
    (hsize : k ≤ registry.size + 1) (owner : Int32 → α) :
    let n := ahead registry.last k
    registry.allocate? owner = some (n, ⟨n, registry.entries ++ [(n, owner n)]⟩) := by
  intro n
  refine allocate?_eq_some_iff.mpr ⟨?_, ?_⟩
  · rw [nextFree?_of_isFirstFree hlast hk, if_pos hsize]
  · rw [put_of_free hk.1.2]

end FirstFree

/-! ### Runs that meet nobody -/

/-- The operation is an allocation. -/
def Op.isAllocate : Op α → Bool
  | .allocate _ => true
  | .release _ => false

/-- Whenever a number is to be handed out, the next one is free. -/
def Unhindered (registry : Registry α) (ops : List (Op α)) : Prop :=
  ∀ earlier owner later, ops = earlier ++ .allocate owner :: later →
    (registry.after earlier).contains (following (registry.after earlier).last) = false

theorem unhindered_nil (registry : Registry α) : registry.Unhindered [] := by
  intro earlier owner later heq
  simp at heq

theorem unhindered_cons_iff {registry : Registry α} {op : Op α} {ops : List (Op α)} :
    registry.Unhindered (op :: ops) ↔
      (op.isAllocate = true → registry.contains (following registry.last) = false) ∧
        (registry.act op).Unhindered ops := by
  constructor
  · intro h
    refine ⟨fun hop => ?_, fun earlier owner later heq => ?_⟩
    · cases op with
      | allocate owner => exact h [] owner ops rfl
      | release n => simp [Op.isAllocate] at hop
    · exact h (op :: earlier) owner later (heq ▸ rfl)
  · intro h earlier owner later heq
    cases earlier with
    | nil =>
        obtain ⟨rfl, rfl⟩ := List.cons.inj heq
        exact h.1 rfl
    | cons first earlier =>
        obtain ⟨rfl, rfl⟩ := List.cons.inj heq
        exact h.2 earlier owner later rfl

/-- If the next number is free, it is handed out. -/
theorem allocate?_of_next_free {registry : Registry α}
    (hfree : registry.contains (following registry.last) = false) (owner : Int32 → α) :
    ∃ after, registry.allocate? owner = some (following registry.last, after) := by
  refine ⟨_, allocate?_eq_some_iff.mpr ⟨?_, rfl⟩⟩
  rw [nextFree?, if_neg (by simp [hfree])]

/-- **A counter that meets nobody** goes one step for each allocation. -/
theorem last_after_of_unhindered {registry : Registry α} {ops : List (Op α)}
    (h : registry.Unhindered ops) :
    (registry.after ops).last = following^[ops.countP Op.isAllocate] registry.last := by
  induction ops generalizing registry with
  | nil => rfl
  | cons op ops ih =>
      obtain ⟨hnext, hrest⟩ := unhindered_cons_iff.mp h
      rw [after_cons, ih hrest]
      cases op with
      | allocate owner =>
          obtain ⟨after, halloc⟩ := allocate?_of_next_free (hnext rfl) owner
          have hact : registry.act (.allocate owner) = after := by simp [act, halloc]
          rw [hact, last_of_allocate? halloc, ← Function.iterate_succ_apply,
            List.countP_cons_of_pos (by rfl)]
      | release n =>
          rw [List.countP_cons_of_neg (by simp [Op.isAllocate])]
          rfl

/-! ### How many numbers are in use -/

/-- How often something holds when an operation of a run comes to be done. -/
def tally (holds : Registry α → Op α → Bool) (registry : Registry α) : List (Op α) → Nat
  | [] => 0
  | op :: ops => (if holds registry op then 1 else 0) + tally holds (registry.act op) ops

/-- The operation hands out a number. -/
def gains (registry : Registry α) : Op α → Bool
  | .allocate owner => (registry.allocate? owner).isSome
  | .release _ => false

/-- The operation releases a number that is in use. -/
def loses (registry : Registry α) : Op α → Bool
  | .allocate _ => false
  | .release n => registry.contains n

theorem size_eq_length_numbers (registry : Registry α) : registry.size = registry.numbers.length :=
  (List.length_map _).symm

/-- An allocation adds one number to those in use. -/
theorem size_of_allocate? {registry after : Registry α} {owner : Int32 → α} {n : Int32}
    (h : registry.allocate? owner = some (n, after)) : after.size = registry.size + 1 := by
  rw [(allocate?_eq_some_iff.mp h).2, put_of_free (contains_eq_false_of_allocate? h)]
  simp [size]

/-- A release takes one number away, if it is in use. -/
theorem Sound.size_release {registry : Registry α} (h : registry.Sound) (n : Int32) :
    (registry.release n).size + (if registry.contains n then 1 else 0) = registry.size := by
  rw [size_eq_length_numbers, size_eq_length_numbers, numbers_release, ← h.nodup.erase_eq_filter]
  by_cases hn : registry.contains n = true
  · have hmem := contains_iff_mem_numbers.mp hn
    rw [if_pos hn, List.length_erase_add_one hmem]
  · have hmem : n ∉ registry.numbers := fun hmem => hn (contains_iff_mem_numbers.mpr hmem)
    rw [if_neg hn, List.erase_of_not_mem hmem, Nat.add_zero]

/-- One operation, gain against loss. -/
theorem Sound.size_act {registry : Registry α} (h : registry.Sound) (op : Op α) :
    (registry.act op).size + (if registry.loses op then 1 else 0) =
      registry.size + (if registry.gains op then 1 else 0) := by
  cases op with
  | allocate owner =>
      cases halloc : registry.allocate? owner with
      | none => simp [Registry.act, gains, loses, halloc]
      | some pair => simp [Registry.act, gains, loses, halloc, size_of_allocate? halloc]
  | release n => exact h.size_release n

/-- **The balance of a run**: who is in use at the end was so at the start or has been handed out,
and has not been released. -/
theorem Sound.size_after {registry : Registry α} (h : registry.Sound) (ops : List (Op α)) :
    (registry.after ops).size + registry.tally loses ops =
      registry.size + registry.tally gains ops := by
  induction ops generalizing registry with
  | nil => rfl
  | cons op ops ih =>
      have hact := h.size_act op
      have hrest := ih (h.act op)
      rw [after_cons, tally, tally]
      omega

/-! ### Allocation -/

/-- **Allocation takes the first free number.** Every start is folded into the range, and no operation
leads the counter out of it. With the counter in range and one number free, an allocation looks at
`k` numbers, the `k`-th being the first free one, which are no more than one above those in use; none
of its sums leaves the 32 bits; and it registers that number behind the entries that were there.

So from a new registry the numbers are handed out in order, as long as the counter meets none that is
in use; and after every run as many numbers are in use as were handed out and not released. -/
theorem allocates_first_free (α : Type) :
    (∀ start : Int32, (startingAt start : Registry α).last.toInt = max start.toInt 0 % (2 ^ 31 - 1) ∧
      InRange (startingAt start : Registry α).last) ∧
    (∀ (registry : Registry α) (ops : List (Op α)), InRange registry.last →
      InRange (registry.after ops).last) ∧
    (∀ (registry : Registry α) (owner : Int32 → α), InRange registry.last →
      (∃ n, InRange n ∧ registry.contains n = false) →
        ∃ k, IsLeast {j | 1 ≤ j ∧ registry.contains (ahead registry.last j) = false} k ∧
          k ≤ registry.size + 1 ∧
          (∀ j, (ahead registry.last j).toInt = (registry.last.toInt + j) % (2 ^ 31 - 1)) ∧
          (∀ j, (ahead registry.last j + 1).toInt = (ahead registry.last j).toInt + 1 ∧
            following (ahead registry.last j) = ahead registry.last (j + 1)) ∧
          (∀ fuel, registry.nextFree? fuel registry.last =
            if k ≤ fuel then some (ahead registry.last k) else none) ∧
          let n := ahead registry.last k
          registry.allocate? owner = some (n, ⟨n, registry.entries ++ [(n, owner n)]⟩)) ∧
    (∀ (start : Int32) (ops : List (Op α)) (owner : Int32 → α),
      (startingAt start).Unhindered (ops ++ [.allocate owner]) →
        ∃ n after, ((startingAt start).after ops).allocate? owner = some (n, after) ∧
          n.toInt = (max start.toInt 0 + (ops.countP Op.isAllocate + 1)) % (2 ^ 31 - 1)) ∧
    ∀ (start : Int32) (ops : List (Op α)),
      ((startingAt start).after ops).size + (startingAt start).tally loses ops =
        (startingAt start).tally gains ops := by
  refine ⟨fun start => ⟨toInt_last_startingAt start, inRange_fold start⟩,
    fun registry ops h => inRange_last_after h ops, ?_, ?_, ?_⟩
  · intro registry owner hlast hfree
    obtain ⟨k, hsize, hk⟩ := exists_isFirstFree hlast hfree
    exact ⟨k, hk, hsize, toInt_ahead registry.last,
      fun j => ⟨toInt_add_one (inRange_ahead hlast j), following_ahead hlast j⟩,
      nextFree?_of_isFirstFree hlast hk, allocate?_of_isFirstFree hlast hk hsize owner⟩
  · intro start ops owner h
    have hops : (startingAt start).Unhindered ops := by
      intro earlier owner' later heq
      exact h earlier owner' (later ++ [.allocate owner]) (by simp [heq])
    have hlast : InRange (startingAt start : Registry α).last := inRange_fold start
    obtain ⟨after, halloc⟩ := allocate?_of_next_free (h ops owner [] rfl) owner
    refine ⟨_, after, halloc, ?_⟩
    rw [last_after_of_unhindered hops, ← Function.iterate_succ_apply' following,
      iterate_following hlast, toInt_ahead, toInt_last_startingAt]
    exact Int.emod_add_emod _ _ _
  · intro start ops
    have hbalance := (sound_startingAt (α := α) start).size_after ops
    simpa [startingAt, size] using hbalance

/-- Behind the greatest number the counter goes on at 0, and both have owners here; and a negative
start counts as 0. -/
theorem allocates_first_free_behind_wrap :
    (let registry : Registry Unit := ⟨2147483645, [(2147483646, ()), (0, ())]⟩
     InRange registry.last ∧ (InRange 1 ∧ registry.contains 1 = false) ∧
      registry.allocate? (fun _ => ()) =
        some (1, ⟨1, [(2147483646, ()), (0, ()), (1, ())]⟩)) ∧
    let ops : List (Op Unit) := [.allocate fun _ => (), .release 1, .allocate fun _ => ()]
    (startingAt (-5)).Unhindered (ops ++ [.allocate fun _ => ()]) ∧
      ∃ n after, ((startingAt (-5)).after ops).allocate? (fun _ => ()) = some (n, after) ∧
        n.toInt = 3 := by
  obtain ⟨-, -, hfirst, hrun, -⟩ := allocates_first_free Unit
  refine ⟨?_, ?_⟩
  · intro registry
    have hlast : InRange registry.last := by decide
    have hfree : InRange 1 ∧ registry.contains 1 = false := by decide
    obtain ⟨k, hk, -, -, -, -, halloc⟩ := hfirst registry (fun _ => ()) hlast ⟨1, hfree⟩
    have hleast : IsLeast {j | 1 ≤ j ∧ registry.contains (ahead registry.last j) = false} 3 := by
      refine ⟨by decide, ?_⟩
      rintro j ⟨hpos, hj⟩
      by_contra hlt
      have hcases : j = 1 ∨ j = 2 := by omega
      rcases hcases with rfl | rfl <;> exact absurd hj (by decide)
    obtain rfl := hk.unique hleast
    have hnumber : ahead registry.last 3 = 1 := by decide
    rw [hnumber] at halloc
    exact ⟨hlast, hfree, halloc⟩
  · intro ops
    have hfree : (startingAt (-5)).Unhindered (ops ++ [.allocate fun _ => ()]) :=
      unhindered_cons_iff.mpr ⟨fun _ => rfl, unhindered_cons_iff.mpr ⟨fun _ => rfl,
        unhindered_cons_iff.mpr ⟨fun _ => rfl, unhindered_cons_iff.mpr ⟨fun _ => rfl,
          unhindered_nil _⟩⟩⟩⟩
    exact ⟨hfree, hrun (-5) ops (fun _ => ()) hfree⟩

end Registry

end TelescopeLink
