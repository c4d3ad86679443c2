import Mathlib.Data.Finset.Card
import Mathlib.Data.Nat.ModEq
import Mathlib.Logic.Function.Iterate
import TelescopeLink.Registry

/-!
# The cycle of numbers

`Registry.following` walks through `numberCount` numbers and starts over. A number in range is its
`position`, a natural number below `numberCount`, and `k` steps add `k` modulo `numberCount`
(`position_iterate`); everything else about the cycle is arithmetic on positions.

The search `Registry.nextFree?` looks at one number of the cycle after the other. What it finds is
said once, by `nextFree?_eq_some_iff`: the first free number, all before it owned. It finds one
unless every number is owned (`exists_nextFree?`), since it looks at one number more than there are
owners, and these numbers are different as long as they are no more than `numberCount`.
-/

namespace TelescopeLink

namespace Registry

variable {α : Type}

/-! ### Numbers and positions -/

/-- How many numbers there are to hand out. -/
def numberCount : Nat := 2 ^ 31 - 1

theorem numberCount_pos : 0 < numberCount := by decide

/-- The numbers that can be handed out: all from 0 to one below the largest of 32 bits. -/
def InRange (n : Int32) : Prop := 0 ≤ n ∧ n < Int32.maxValue

instance (n : Int32) : Decidable (InRange n) := inferInstanceAs (Decidable (_ ∧ _))

/-- The place of a number on the cycle. -/
def position (n : Int32) : Nat := n.toInt.toNat

theorem toInt_maxValue_eq : Int32.maxValue.toInt = numberCount := rfl

theorem inRange_iff {n : Int32} : InRange n ↔ 0 ≤ n.toInt ∧ n.toInt < numberCount := by
  rw [InRange, Int32.le_iff_toInt_le, Int32.lt_iff_toInt_lt, toInt_maxValue_eq]
  rfl

theorem toInt_eq_position {n : Int32} (h : InRange n) : n.toInt = position n :=
  (Int.toNat_of_nonneg (inRange_iff.mp h).1).symm

theorem position_lt {n : Int32} (h : InRange n) : position n < numberCount := by
  have hlt := (inRange_iff.mp h).2
  rw [toInt_eq_position h] at hlt
  exact_mod_cast hlt

/-- A number in range is known by its position. -/
theorem position_inj {m n : Int32} (hm : InRange m) (hn : InRange n) :
    position m = position n ↔ m = n := by
  refine ⟨fun h => Int32.toInt_inj.mp ?_, fun h => h ▸ rfl⟩
  rw [toInt_eq_position hm, toInt_eq_position hn, h]

/-- One more than a number in range is at most the largest of 32 bits, so the sum does not wrap. -/
theorem toInt_add_one {n : Int32} (h : InRange n) : (n + 1).toInt = n.toInt + 1 := by
  have hlt := position_lt h
  rw [Int32.toInt_add, toInt_eq_position h]
  refine Int.bmod_eq_of_le ?_ ?_ <;> simp only [numberCount] at hlt <;> simp <;> omega

/-- A step in terms of positions: one more, and from the last to the first. -/
theorem toInt_following {n : Int32} (h : InRange n) :
    (following n).toInt = ((position n + 1) % numberCount : Nat) := by
  rw [following, Int32.toInt_mod, toInt_add_one h, toInt_eq_position h, toInt_maxValue_eq]
  exact Int.ofNat_tmod ..

/-- The counter never leaves the range. -/
theorem inRange_following {n : Int32} (h : InRange n) : InRange (following n) := by
  rw [inRange_iff, toInt_following h]
  have := Nat.mod_lt (position n + 1) numberCount_pos
  omega

theorem position_following {n : Int32} (h : InRange n) :
    position (following n) = (position n + 1) % numberCount := by
  rw [position, toInt_following h, Int.toNat_natCast]

/-! ### Many steps -/

/-- Nor does it in many steps. -/
theorem inRange_iterate {n : Int32} (h : InRange n) (k : Nat) : InRange (following^[k] n) := by
  induction k with
  | zero => exact h
  | succ k ih =>
      rw [Function.iterate_succ_apply']
      exact inRange_following ih

/-- **Position arithmetic.** Steps along the cycle add up modulo its length. -/
theorem position_iterate {n : Int32} (h : InRange n) (k : Nat) :
    position (following^[k] n) = (position n + k) % numberCount := by
  induction k with
  | zero => exact (Nat.mod_eq_of_lt (position_lt h)).symm
  | succ k ih =>
      rw [Function.iterate_succ_apply', position_following (inRange_iterate h k), ih,
        Nat.mod_add_mod, Nat.add_assoc]

/-- Two walks of less than a lap from the same number end at the same number only if they are
equally long. -/
theorem iterate_inj {n : Int32} (h : InRange n) {j k : Nat} (hj : j < numberCount)
    (hk : k < numberCount) : following^[j] n = following^[k] n ↔ j = k := by
  refine ⟨fun heq => ?_, fun heq => heq ▸ rfl⟩
  have hpos : (position n + j) % numberCount = (position n + k) % numberCount := by
    rw [← position_iterate h, ← position_iterate h, heq]
  have hmod := Nat.ModEq.add_left_cancel' _ hpos
  exact Nat.ModEq.eq_of_lt_of_lt hmod hj hk

/-- A walk that comes back to where it started has gone round whole laps. -/
theorem numberCount_dvd_of_iterate_eq_self {n : Int32} (h : InRange n) {k : Nat}
    (heq : following^[k] n = n) : numberCount ∣ k := by
  have hpos : (position n + k) % numberCount = (position n + 0) % numberCount := by
    rw [← position_iterate h, heq, Nat.add_zero, Nat.mod_eq_of_lt (position_lt h)]
  exact (Nat.modEq_zero_iff_dvd).mp (Nat.ModEq.add_left_cancel' _ hpos)

/-- How many steps lead from one number to the next occurrence of another, at least one. -/
def stride (m n : Int32) : Nat :=
  if position m < position n then position n - position m
  else numberCount - position m + position n

theorem stride_pos {m n : Int32} (hm : InRange m) : 0 < stride m n := by
  have := position_lt hm
  unfold stride
  split <;> omega

theorem stride_le {m n : Int32} (hn : InRange n) : stride m n ≤ numberCount := by
  have := position_lt hn
  unfold stride
  split <;> omega

/-- The stride leads from one number to the other. -/
theorem iterate_stride {m n : Int32} (hm : InRange m) (hn : InRange n) :
    following^[stride m n] m = n := by
  have hmlt := position_lt hm
  have hnlt := position_lt hn
  rw [← position_inj (inRange_iterate hm _) hn, position_iterate hm, stride]
  split
  · rw [Nat.add_sub_cancel' (by omega), Nat.mod_eq_of_lt hnlt]
  · rw [← Nat.add_assoc, Nat.add_sub_cancel' (by omega), Nat.add_mod_left, Nat.mod_eq_of_lt hnlt]

/-- A walk of at most a lap between two numbers is as long as the stride between them. -/
theorem eq_stride_of_iterate_eq {m n : Int32} (hm : InRange m) (hn : InRange n) {k : Nat}
    (hpos : 0 < k) (hle : k ≤ numberCount) (h : following^[k] m = n) : k = stride m n := by
  have hs := stride_pos (n := n) hm
  have hsle := stride_le (m := m) hn
  -- Walks of one step less start one step on, and those are shorter than a lap.
  have hone : following^[k - 1] (following m) = following^[stride m n - 1] (following m) := by
    rw [← Function.iterate_succ_apply, ← Function.iterate_succ_apply, Nat.succ_eq_add_one,
      Nat.succ_eq_add_one, Nat.sub_add_cancel (Nat.succ_le_of_lt hpos),
      Nat.sub_add_cancel (Nat.succ_le_of_lt hs), h, iterate_stride hm hn]
  have := (iterate_inj (inRange_following hm) (by omega) (by omega)).mp hone
  omega

/-- A lap leads back. -/
theorem iterate_numberCount {n : Int32} (h : InRange n) : following^[numberCount] n = n := by
  rw [← position_inj (inRange_iterate h _) h, position_iterate h, Nat.add_mod_right,
    Nat.mod_eq_of_lt (position_lt h)]

/-! ### Journeys -/

/-- How many steps the counter takes from `n` on to come to these numbers one after another. -/
def travel : Int32 → List Int32 → Nat
  | _, [] => 0
  | n, m :: rest => stride n m + travel m rest

theorem travel_append (n m : Int32) (first rest : List Int32) :
    travel n (first ++ m :: rest) = travel n (first ++ [m]) + travel m rest := by
  induction first generalizing n with
  | nil => simp [travel]
  | cons k first ih =>
      simp only [List.cons_append, travel, ih]
      omega

/-- A journey ends at the last of its numbers. -/
theorem iterate_travel {n : Int32} {numbers : List Int32} (hn : InRange n)
    (hnumbers : ∀ m ∈ numbers, InRange m) :
    following^[travel n numbers] n = numbers.getLastD n := by
  induction numbers generalizing n with
  | nil => rfl
  | cons m rest ih =>
      have hm := hnumbers m List.mem_cons_self
      rw [travel, Nat.add_comm, Function.iterate_add_apply, iterate_stride hn hm,
        ih hm fun k hk => hnumbers k (List.mem_cons_of_mem m hk)]
      cases rest <;> rfl

/-- **Who comes back has gone round**: a journey that comes to the number where it started is at
least a lap. -/
theorem numberCount_le_travel {n : Int32} {numbers : List Int32} (hn : InRange n)
    (hnumbers : ∀ m ∈ numbers, InRange m) (hmem : n ∈ numbers) :
    numberCount ≤ travel n numbers := by
  -- The journey is cut where it comes back for the first time; up to there it is whole laps.
  obtain ⟨first, rest, rfl⟩ := List.append_of_mem hmem
  have hfirst : ∀ m ∈ first ++ [n], InRange m := by
    intro m hm
    simp only [List.mem_append, List.mem_singleton] at hm
    exact hnumbers m (by simpa using hm.elim Or.inl fun heq => Or.inr (Or.inl heq))
  have hback : following^[travel n (first ++ [n])] n = n := by
    rw [iterate_travel hn hfirst]
    simp
  have hpos : 0 < travel n (first ++ [n]) := by
    cases first with
    | nil => exact Nat.add_pos_left (stride_pos hn) _
    | cons m first => exact Nat.add_pos_left (stride_pos hn) _
  have hlap := Nat.le_of_dvd hpos (numberCount_dvd_of_iterate_eq_self hn hback)
  rw [travel_append]
  omega

/-! ### The search -/

/-- **What the search finds**: the first number behind `n` that is free, all between them owned. -/
theorem nextFree?_eq_some_iff {registry : Registry α} {fuel : Nat} {n m : Int32} :
    registry.nextFree? fuel n = some m ↔
      ∃ k < fuel, m = following^[k + 1] n ∧ registry.contains m = false ∧
        ∀ i < k, registry.contains (following^[i + 1] n) = true := by
  -- Look by look. An owned number shifts the rest of the way by one; a free one is where it ends.
  induction fuel generalizing n with
  | zero => simp [nextFree?]
  | succ fuel ih =>
      rw [nextFree?]
      by_cases hown : registry.contains (following n) = true
      · rw [if_pos hown, ih]
        constructor
        · intro h
          obtain ⟨k, hk, hm, hfree, hbefore⟩ := h
          refine ⟨k + 1, by omega, hm, hfree, fun i hi => ?_⟩
          cases i with
          | zero => exact hown
          | succ i => exact hbefore i (by omega)
        · intro h
          obtain ⟨k, hk, rfl, hfree, hbefore⟩ := h
          cases k with
          | zero =>
              rw [Function.iterate_one] at hfree
              exact absurd hown (by simp [hfree])
          | succ k =>
              exact ⟨k, by omega, rfl, hfree, fun i hi => hbefore (i + 1) (by omega)⟩
      · rw [if_neg hown]
        constructor
        · intro h
          obtain rfl := Option.some.inj h
          exact ⟨0, by omega, rfl, by simpa using hown, by simp⟩
        · intro h
          obtain ⟨k, hk, rfl, hfree, hbefore⟩ := h
          cases k with
          | zero => rfl
          | succ k => exact absurd (hbefore 0 (by omega)) hown

/-- The search is in vain only if everything it looks at is owned. -/
theorem nextFree?_eq_none_iff {registry : Registry α} {fuel : Nat} {n : Int32} :
    registry.nextFree? fuel n = none ↔
      ∀ i < fuel, registry.contains (following^[i + 1] n) = true := by
  induction fuel generalizing n with
  | zero => simp [nextFree?]
  | succ fuel ih =>
      rw [nextFree?]
      by_cases hown : registry.contains (following n) = true
      · rw [if_pos hown, ih]
        constructor
        · intro h i hi
          cases i with
          | zero => exact hown
          | succ i => exact h i (by omega)
        · exact fun h i hi => h (i + 1) (by omega)
      · rw [if_neg hown]
        exact ⟨fun h => absurd h (by simp), fun h => absurd (h 0 (by omega)) hown⟩

theorem contains_iff_mem_numbers {registry : Registry α} {n : Int32} :
    registry.contains n = true ↔ n ∈ registry.numbers := by
  rw [contains, lookup, numbers, List.lookup_isSome_iff, List.mem_map]
  constructor
  · intro h
    obtain ⟨entry, hmem, hkey⟩ := h
    exact ⟨entry, hmem, (by simpa using hkey : n = entry.1).symm⟩
  · intro h
    obtain ⟨entry, hmem, rfl⟩ := h
    exact ⟨entry, hmem, by simp⟩

/-- **The search finds a number** as long as one is free: `size + 1` numbers of the cycle cannot all
be among `size` owned ones. -/
theorem exists_nextFree? {registry : Registry α} (hlast : InRange registry.last)
    (hsize : registry.size < numberCount) :
    ∃ n, registry.nextFree? (registry.size + 1) registry.last = some n := by
  by_contra hnone
  have hall := nextFree?_eq_none_iff.mp
    (Option.eq_none_iff_forall_ne_some.mpr fun n h => hnone ⟨n, h⟩)
  have hmaps : ∀ i ∈ Finset.range (registry.size + 1),
      following^[i] (following registry.last) ∈ registry.numbers.toFinset := by
    intro i hi
    rw [List.mem_toFinset, ← contains_iff_mem_numbers]
    exact hall i (Finset.mem_range.mp hi)
  have hinj : Set.InjOn (fun i => following^[i] (following registry.last))
      (Finset.range (registry.size + 1)) := by
    intro i hi j hj heq
    have hi := Finset.mem_range.mp (Finset.mem_coe.mp hi)
    have hj := Finset.mem_range.mp (Finset.mem_coe.mp hj)
    exact (iterate_inj (inRange_following hlast) (by omega) (by omega)).mp heq
  have hcard := Finset.card_le_card_of_injOn _ hmaps hinj
  have hle := registry.numbers.toFinset_card_le
  rw [Finset.card_range] at hcard
  rw [numbers, List.length_map] at hle
  exact absurd (hcard.trans hle) (by simp [size])

/-- One free number is enough, whatever the entries are. -/
theorem exists_nextFree?_of_free {registry : Registry α} (hlast : InRange registry.last) {n : Int32}
    (hn : InRange n) (hfree : registry.contains n = false) :
    ∃ m, registry.nextFree? (registry.size + 1) registry.last = some m := by
  by_cases hsize : registry.size < numberCount
  · exact exists_nextFree? hlast hsize
  · -- So many numbers are looked at that the free one is among them.
    by_contra hnone
    have hall := nextFree?_eq_none_iff.mp
      (Option.eq_none_iff_forall_ne_some.mpr fun m hm => hnone ⟨m, hm⟩)
    have hpos : 0 < stride registry.last n := stride_pos hlast
    have hle : stride registry.last n ≤ numberCount := stride_le hn
    have howned := hall (stride registry.last n - 1) (by omega)
    rw [Nat.sub_add_cancel hpos, iterate_stride hlast hn, hfree] at howned
    exact absurd howned Bool.false_ne_true

end Registry

end TelescopeLink
