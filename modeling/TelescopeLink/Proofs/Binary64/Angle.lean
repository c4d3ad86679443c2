import TelescopeLink.Binary64.Angle
import TelescopeLink.Proofs.Binary64.Places

/-!
# Angles in one turn

Reducing an angle gives a number that is not negative and not above the turn
(`signed_wrapAngle`, `value_wrapAngle_le`), and but for one rounding it is a whole number of turns
away from the angle (`exists_turns`). The turn itself can come out: a negative angle so near to zero
that the turn is the number nearest to the sum.
-/

namespace TelescopeLink

namespace Binary64

/-- What reducing rounds: the part of an angle beyond its whole turns, counted from zero or, if the
angle is negative, from the turn. -/
theorem exists_ratio (x : Binary64) {turn : Nat} (hturn : 0 < turn) :
    ∃ (negative : Bool) (num : Nat) (turns : ℤ),
      x.wrapAngle turn = ofMagnitude negative (nearest num x.denominator) ∧
        (negative = true → num = 0) ∧ num ≤ turn * x.denominator ∧
        (num : ℚ) / x.denominator = x.signed - turn * turns := by
  have hpos : 0 < turn * x.denominator := Nat.mul_pos hturn x.denominator_pos
  have hden : (x.denominator : ℚ) ≠ 0 := by exact_mod_cast x.denominator_pos.ne'
  have hsplit := Nat.div_add_mod x.numerator (turn * x.denominator)
  have hrest := Nat.mod_lt x.numerator hpos
  rw [wrapAngle, remainder, signed, value]
  generalize x.numerator / (turn * x.denominator) = whole at hsplit
  generalize x.numerator % (turn * x.denominator) = rest at hsplit hrest ⊢
  have hnumerator : (x.numerator : ℚ) = turn * x.denominator * whole + rest := by
    exact_mod_cast hsplit.symm
  have hvalue : (x.numerator : ℚ) / x.denominator = turn * whole + rest / x.denominator := by
    rw [hnumerator, add_div, mul_right_comm, mul_div_assoc, div_self hden, mul_one]
  rw [hvalue]
  -- A remainder has the sign of the angle, so a turn is added to a negative one, unless it is zero.
  cases x.isNegative with
  | false =>
      refine ⟨false, rest, whole, rfl, by simp, hrest.le, ?_⟩
      simp
  | true =>
      by_cases hzero : rest = 0
      · refine ⟨true, rest, -whole, by simp [hzero], fun _ => hzero, hrest.le, ?_⟩
        simp [hzero]
      · refine ⟨false, turn * x.denominator - rest, -whole - 1, by simp [hzero, ofRatio], by simp,
          Nat.sub_le _ _, ?_⟩
        rw [Nat.cast_sub hrest.le, Nat.cast_mul, sub_div, mul_div_assoc, div_self hden]
        push_cast
        simp only [if_true]
        ring

/-- An angle in one turn is not negative: where it has a minus, it is zero. -/
theorem signed_wrapAngle (x : Binary64) {turn : Nat} (hturn : 0 < turn) :
    (x.wrapAngle turn).signed = (x.wrapAngle turn).value := by
  obtain ⟨negative, num, turns, hwrap, hzero, -, -⟩ := exists_ratio x hturn
  rw [hwrap, signed]
  cases negative with
  | false =>
      rw [isNegative_ofMagnitude (nearest_lt num x.denominator)]
      exact if_neg Bool.false_ne_true
  | true =>
      have hnone : num ≤ 0 * x.denominator := by rw [hzero rfl, Nat.zero_mul]
      have hle := value_nearest_le true x.denominator_pos (by decide) hnone
      have hvalue := le_antisymm (by simpa using hle) (value_nonneg _)
      rw [hvalue, neg_zero, ite_self]

/-- It is not above the turn. -/
theorem value_wrapAngle_le (x : Binary64) {turn : Nat} (hturn : 0 < turn) (hsmall : turn < 2 ^ 53) :
    (x.wrapAngle turn).value ≤ turn := by
  obtain ⟨negative, num, turns, hwrap, -, hle, -⟩ := exists_ratio x hturn
  rw [hwrap]
  exact value_nearest_le negative x.denominator_pos hsmall hle

/-- **The angle is kept** up to whole turns and one rounding. -/
theorem exists_turns (x : Binary64) {turn k : Nat} (hturn : 0 < turn) (hk : k ≤ 1023)
    (hlt : turn < 2 ^ k) :
    ∃ turns : ℤ, |(x.wrapAngle turn).value - (x.signed - turn * turns)| ≤ 2 ^ ((k : ℤ) - 54) := by
  obtain ⟨negative, num, turns, hwrap, -, hle, hratio⟩ := exists_ratio x hturn
  have hden : (0 : ℚ) < x.denominator := by exact_mod_cast x.denominator_pos
  have hbelow : (num : ℚ) / x.denominator < 2 ^ k := by
    rw [div_lt_iff₀ hden]
    exact_mod_cast hle.trans_lt (Nat.mul_lt_mul_of_pos_right hlt x.denominator_pos)
  refine ⟨turns, ?_⟩
  rw [hwrap, ← hratio]
  exact abs_value_nearest_sub_le negative x.denominator_pos hk hbelow

end Binary64

end TelescopeLink
