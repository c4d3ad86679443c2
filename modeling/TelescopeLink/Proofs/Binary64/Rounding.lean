import Mathlib.Algebra.Order.Field.Power
import Mathlib.Data.Rat.Cast.Order
import Mathlib.Tactic.FieldSimp
import Mathlib.Tactic.Linarith
import Mathlib.Tactic.NormNum
import Mathlib.Tactic.Positivity
import Mathlib.Tactic.Ring
import TelescopeLink.Binary64.Basic

/-!
# Rounding keeps below powers of two

The one rounding of the library, `nearest`, never carries a ratio past a power of two: a ratio of at
most `2 ^ k` becomes a number of at most `2 ^ k`, and a finite one as long as `k` is at most 1023
(`value_ofRatio_le`). That is what a chain of rounded operations needs to be bounded from above.

Numbers are compared as rationals, by `value`. The last binary place of a ratio lies 53 places below
a power of two above the ratio, and 52 below one that is not above it, unless it is that of the
smallest number (`lastPlace_spec`).
-/

namespace TelescopeLink

namespace Binary64

/-- The magnitude of a finite number. -/
def value (x : Binary64) : ℚ := x.numerator / x.denominator

/-! ### Powers of two -/

theorem two_zpow_eq (e : ℤ) : (2 : ℚ) ^ e = 2 ^ e.toNat / 2 ^ (-e).toNat := by
  obtain ⟨n, rfl | rfl⟩ := e.eq_nat_or_neg
  · simp
  · simp [zpow_neg]

theorem two_zpow_pos (e : ℤ) : (0 : ℚ) < 2 ^ e := zpow_pos two_pos e

theorem two_zpow_le {a b : ℤ} (h : a ≤ b) : (2 : ℚ) ^ a ≤ 2 ^ b :=
  zpow_le_zpow_right₀ one_le_two h

/-- A number is its significand, scaled by its exponent. -/
theorem value_eq (x : Binary64) : x.value = x.significand * 2 ^ x.exponent := by
  rw [value, numerator, denominator, Nat.shiftLeft_eq, Nat.one_shiftLeft, two_zpow_eq]
  push_cast
  rw [mul_div_assoc]

/-- Scaling a ratio divides it by a power of two. -/
theorem scaled_ratio (num den : Nat) (e : ℤ) :
    ((scaled num den e).1 : ℚ) / (scaled num den e).2 = num / den / 2 ^ e := by
  rw [two_zpow_eq, scaled, Nat.shiftLeft_eq, Nat.shiftLeft_eq]
  push_cast
  field_simp

theorem scaled_den_pos {num den : Nat} (hden : 0 < den) (e : ℤ) : 0 < (scaled num den e).2 := by
  show 0 < den <<< e.toNat
  rw [Nat.shiftLeft_eq]
  exact Nat.mul_pos hden (Nat.two_pow_pos _)

/-- Bounds of a scaled ratio are scaled bounds of the ratio. -/
theorem scaled_le_iff {num den : Nat} (hden : 0 < den) (e : ℤ) (places : Nat) :
    (scaled num den e).1 ≤ 2 ^ places * (scaled num den e).2 ↔
      (num : ℚ) / den ≤ 2 ^ (e + places) := by
  have hpos : (0 : ℚ) < (scaled num den e).2 := by exact_mod_cast scaled_den_pos hden e
  rw [zpow_add₀ two_ne_zero, zpow_natCast, mul_comm ((2 : ℚ) ^ e), ← div_le_iff₀ (two_zpow_pos e),
    ← scaled_ratio, div_le_iff₀ hpos]
  exact_mod_cast Iff.rfl

theorem le_scaled_iff {num den : Nat} (hden : 0 < den) (e : ℤ) (places : Nat) :
    2 ^ places * (scaled num den e).2 ≤ (scaled num den e).1 ↔
      (2 : ℚ) ^ (e + places) ≤ num / den := by
  have hpos : (0 : ℚ) < (scaled num den e).2 := by exact_mod_cast scaled_den_pos hden e
  rw [zpow_add₀ two_ne_zero, zpow_natCast, mul_comm ((2 : ℚ) ^ e), ← le_div_iff₀ (two_zpow_pos e),
    ← scaled_ratio, le_div_iff₀ hpos]
  exact_mod_cast Iff.rfl

/-! ### The last place -/

section Logarithms

variable {num den : Nat} (hnum : num ≠ 0) (hden : 0 < den)
include hnum hden

/-- The lengths of numerator and denominator bound a ratio from above. -/
theorem ratio_lt_two_zpow : (num : ℚ) / den < 2 ^ ((num.log2 : ℤ) - den.log2 + 1) := by
  have hn : (num : ℚ) < 2 ^ (num.log2 + 1) := by exact_mod_cast Nat.lt_log2_self
  have hd : (2 : ℚ) ^ den.log2 ≤ den := by exact_mod_cast Nat.log2_self_le hden.ne'
  have hpos : (0 : ℚ) < 2 ^ den.log2 := by positivity
  calc (num : ℚ) / den ≤ num / 2 ^ den.log2 := div_le_div_of_nonneg_left (by positivity) hpos hd
    _ < 2 ^ (num.log2 + 1) / 2 ^ den.log2 := div_lt_div_of_pos_right hn hpos
    _ = 2 ^ ((num.log2 : ℤ) - den.log2 + 1) := by
      rw [← zpow_natCast, ← zpow_natCast, ← zpow_sub₀ two_ne_zero]
      congr 1
      push_cast
      ring

/-- They bound it from below, by a quarter of that. -/
theorem two_zpow_le_ratio : (2 : ℚ) ^ ((num.log2 : ℤ) - den.log2 - 1) ≤ num / den := by
  have hn : (2 : ℚ) ^ num.log2 ≤ num := by exact_mod_cast Nat.log2_self_le hnum
  have hd : (den : ℚ) ≤ 2 ^ (den.log2 + 1) := by exact_mod_cast Nat.lt_log2_self.le
  have hpos : (0 : ℚ) < den := by exact_mod_cast hden
  calc (2 : ℚ) ^ ((num.log2 : ℤ) - den.log2 - 1) = 2 ^ num.log2 / 2 ^ (den.log2 + 1) := by
        rw [← zpow_natCast, ← zpow_natCast, ← zpow_sub₀ two_ne_zero]
        congr 1
        push_cast
        ring
    _ ≤ num / 2 ^ (den.log2 + 1) := div_le_div_of_nonneg_right hn (by positivity)
    _ ≤ num / den := div_le_div_of_nonneg_left (by positivity) hpos hd

/-- **The last place** of a ratio lies 53 places below a power of two above the ratio, and 52 below
one that is not, unless it is that of the smallest number. -/
theorem lastPlace_spec :
    -1074 ≤ lastPlace num den ∧ (num : ℚ) / den ≤ 2 ^ (lastPlace num den + 53) ∧
      (lastPlace num den = -1074 ∨ (2 : ℚ) ^ (lastPlace num den + 52) ≤ num / den) := by
  have habove := (ratio_lt_two_zpow hnum hden).le
  have hbelow := two_zpow_le_ratio hnum hden
  rw [lastPlace]
  -- The lengths leave two places to choose from, and one comparison decides between them.
  generalize he : (num.log2 : ℤ) - den.log2 - 53 = e
  dsimp only
  split
  · rename_i hcarry
    rw [Nat.shiftLeft_eq, Nat.mul_comm] at hcarry
    have hcarry := (le_scaled_iff hden e 53).mp hcarry
    refine ⟨le_max_right _ _, habove.trans (two_zpow_le (by omega)), ?_⟩
    rcases le_total (e + 1) (-1074) with hlow | hhigh
    · exact Or.inl (max_eq_right hlow)
    · rw [max_eq_left hhigh]
      exact Or.inr ((two_zpow_le (by omega)).trans hcarry)
  · rename_i hcarry
    rw [Nat.shiftLeft_eq, Nat.mul_comm] at hcarry
    have hcarry := (scaled_le_iff hden e 53).mp (Nat.not_le.mp hcarry).le
    refine ⟨le_max_right _ _, hcarry.trans (two_zpow_le (by omega)), ?_⟩
    rcases le_total e (-1074) with hlow | hhigh
    · exact Or.inl (max_eq_right hlow)
    · rw [max_eq_left hhigh]
      exact Or.inr ((two_zpow_le (by omega)).trans hbelow)

end Logarithms

/-! ### Rounding -/

/-- A quotient is rounded down as far as its rest is at most half, and up from there. -/
theorem divNearest_cases (n d : Nat) :
    (divNearest n d = n / d ∧ 2 * (n % d) ≤ d) ∨
      (divNearest n d = n / d + 1 ∧ d ≤ 2 * (n % d)) := by
  rw [divNearest]
  split
  · exact Or.inl ⟨rfl, by omega⟩
  · split
    · split
      · exact Or.inl ⟨rfl, by omega⟩
      · exact Or.inr ⟨rfl, by omega⟩
    · exact Or.inr ⟨rfl, by omega⟩

/-- Rounding does not pass a whole number. -/
theorem divNearest_le {n d m : Nat} (hd : 0 < d) (h : n ≤ m * d) : divNearest n d ≤ m := by
  have hq : n / d ≤ m := Nat.div_le_of_le_mul (by rwa [Nat.mul_comm])
  rcases hq.lt_or_eq with hlt | heq
  · rcases divNearest_cases n d with ⟨hround, -⟩ | ⟨hround, -⟩ <;> omega
  · -- The quotient is the bound, so nothing is left to round up.
    have hr : n % d = 0 := by
      have := Nat.div_add_mod n d
      rw [heq, Nat.mul_comm] at this
      omega
    rw [divNearest, hr, if_pos (by omega)]
    exact hq

/-- **Rounding does not pass a power of two**: of a ratio of at most `2 ^ k`, the bits are at most
those of `2 ^ k`. -/
theorem nearest_le {num den k : Nat} (hden : 0 < den) (h : (num : ℚ) / den ≤ 2 ^ k) :
    nearest num den ≤ (k + 1023) * 2 ^ 52 := by
  rw [nearest]
  split
  · exact Nat.zero_le _
  · rename_i hnum
    obtain ⟨hleast, habove, hbelow⟩ := lastPlace_spec hnum hden
    dsimp only
    refine (min_le_left _ _).trans ?_
    generalize lastPlace num den = e at hleast habove hbelow
    -- A ratio of at most `2 ^ k` has its last place 52 below `k` or lower.
    have hle : e ≤ (k : ℤ) - 52 := by
      rcases hbelow with hbelow | hbelow
      · omega
      · have := (zpow_le_zpow_iff_right₀ one_lt_two).mp
          (hbelow.trans (h.trans_eq (zpow_natCast 2 k).symm))
        omega
    rcases Int.lt_or_eq_of_le hle with hlt | heq
    · have hround := divNearest_le (scaled_den_pos hden e) ((scaled_le_iff hden e 53).mpr habove)
      omega
    · -- At its highest place, the ratio has one bit less to give.
      have hround := divNearest_le (scaled_den_pos hden e) ((scaled_le_iff hden e 52).mpr
        (by rw [heq]; simpa using h))
      omega

theorem toNat_bits_ofMagnitude {negative : Bool} {m : Nat} (h : m < 2 ^ 63) :
    (ofMagnitude negative m).bits.toNat = (if negative then 2 ^ 63 else 0) + m := by
  have hlt : (if negative then 2 ^ 63 else 0) + m < 2 ^ 64 := by split <;> omega
  rw [ofMagnitude, Nat.one_shiftLeft, UInt64.toNat_ofNat', Nat.mod_eq_of_lt hlt]

/-- A magnitude of 63 bits is kept beside the sign. -/
theorem magnitude_ofMagnitude {negative : Bool} {m : Nat} (h : m < 2 ^ 63) :
    (ofMagnitude negative m).magnitude = m := by
  rw [magnitude, toNat_bits_ofMagnitude h, Nat.one_shiftLeft]
  split <;> omega

theorem isNegative_ofMagnitude {negative : Bool} {m : Nat} (h : m < 2 ^ 63) :
    (ofMagnitude negative m).isNegative = negative := by
  rw [isNegative, toNat_bits_ofMagnitude h, Nat.one_shiftLeft]
  cases negative with
  | false => exact decide_eq_false (by simpa using h)
  | true => exact decide_eq_true (by simp)

/-- A number whose bits are at most those of `2 ^ k` is at most `2 ^ k`. -/
theorem value_ofMagnitude_le {m k : Nat} (hk : k ≤ 1023) (h : m ≤ (k + 1023) * 2 ^ 52) :
    (ofMagnitude false m).isFinite = true ∧ (ofMagnitude false m).value ≤ 2 ^ k := by
  have hm : m < 2 ^ 63 := by omega
  generalize hx : ofMagnitude false m = x
  have hmag : x.magnitude = m := hx ▸ magnitude_ofMagnitude hm
  refine ⟨decide_eq_true (by rw [hmag, infinityBits]; omega), ?_⟩
  rw [value_eq, significand, exponent, exponentBits, fractionBits, hmag, ← zpow_natCast,
    Nat.one_shiftLeft, Nat.shiftRight_eq_div_pow]
  have hfraction : m % 2 ^ 52 < 2 ^ 52 := Nat.mod_lt _ (Nat.two_pow_pos _)
  -- A significand of at most `2 ^ places` at a place low enough.
  have hbound : ∀ (places : Nat) {significand : Nat} {e : ℤ}, significand ≤ 2 ^ places →
      e + places ≤ k → (significand : ℚ) * 2 ^ e ≤ 2 ^ (k : ℤ) := by
    intro places significand e hsignificand he
    calc (significand : ℚ) * 2 ^ e ≤ 2 ^ places * 2 ^ e :=
          mul_le_mul_of_nonneg_right (by exact_mod_cast hsignificand) (two_zpow_pos e).le
      _ = 2 ^ (e + places) := by rw [zpow_add₀ two_ne_zero, zpow_natCast, mul_comm]
      _ ≤ 2 ^ (k : ℤ) := two_zpow_le he
  split
  · exact hbound 52 hfraction.le (by omega)
  · rcases Nat.lt_or_ge (m / 2 ^ 52) (k + 1023) with hlt | hge
    · exact hbound 53 (by omega) (by omega)
    · exact hbound 52 (by omega) (by omega)

/-- **The number nearest to a ratio** of at most `2 ^ k` is finite and at most `2 ^ k`. -/
theorem value_ofRatio_le {num den k : Nat} (hden : 0 < den) (hk : k ≤ 1023)
    (h : (num : ℚ) / den ≤ 2 ^ k) :
    (ofRatio num den).isFinite = true ∧ (ofRatio num den).value ≤ 2 ^ k :=
  value_ofMagnitude_le hk (nearest_le hden h)

/-! ### Arithmetic -/

/-- Converting a whole number does not pass a power of two either. -/
theorem value_ofNat_le {n k : Nat} (hk : k ≤ 1023) (h : n ≤ 2 ^ k) : (ofNat n).value ≤ 2 ^ k :=
  (value_ofRatio_le one_pos hk (by simpa using mod_cast h)).2

section Arithmetic

variable {x y : Binary64} {k : Nat} (hk : k ≤ 1023)
include hk

/-- Nor does any operation whose exact result does not. -/
theorem value_add_le (h : x.value + y.value ≤ 2 ^ k) : (x.add y).value ≤ 2 ^ k := by
  have hx : (x.denominator : ℚ) ≠ 0 := by exact_mod_cast x.denominator_pos.ne'
  have hy : (y.denominator : ℚ) ≠ 0 := by exact_mod_cast y.denominator_pos.ne'
  refine (value_ofRatio_le (Nat.mul_pos x.denominator_pos y.denominator_pos) hk ?_).2
  push_cast
  rw [value, value, div_add_div _ _ hx hy] at h
  rwa [mul_comm (y.numerator : ℚ)]

theorem value_mul_le (h : x.value * y.value ≤ 2 ^ k) :
    (x.mul y).isFinite = true ∧ (x.mul y).value ≤ 2 ^ k := by
  refine value_ofRatio_le (Nat.mul_pos x.denominator_pos y.denominator_pos) hk ?_
  push_cast
  rwa [value, value, div_mul_div_comm] at h

theorem value_div_le (hy : 0 < y.numerator) (h : x.value / y.value ≤ 2 ^ k) :
    (x.div y).value ≤ 2 ^ k := by
  refine (value_ofRatio_le (Nat.mul_pos x.denominator_pos hy) hk ?_).2
  push_cast
  rwa [value, value, div_div_div_eq] at h

end Arithmetic

end Binary64

end TelescopeLink
