import TelescopeLink.Proofs.Binary64.Rounding

/-!
# How near rounding comes

What `nearest` gives is a rounded quotient at the last place of the ratio (`value_nearest`). So a
ratio below `2 ^ k` is missed by half a unit of its last place at most (`abs_value_nearest_sub_le`),
and one that is not above a whole number does not come out above it (`value_nearest_le`).

The rounded quotient itself is at most half a unit away from the quotient, and where it changes from
one whole number to an even one is known exactly (`le_divNearest_iff`).
-/

namespace TelescopeLink

namespace Binary64

/-! ### Quotients -/

/-- Bounds of a rounded quotient, in halves of the divisor. -/
theorem divNearest_bounds {n d : Nat} (hd : 0 < d) :
    2 * n ≤ (2 * divNearest n d + 1) * d ∧ 2 * divNearest n d * d ≤ 2 * n + d := by
  have hsplit := Nat.div_add_mod n d
  have hrest := Nat.mod_lt n hd
  have hround := divNearest_cases n d
  -- Quotient and rest are all that rounding looks at; the two ways it can go are linear in them.
  generalize n / d = q at hsplit hround
  generalize n % d = r at hsplit hrest hround
  subst hsplit
  rcases hround with ⟨hdown, hhalf⟩ | ⟨hup, hhalf⟩
  · rw [hdown]
    constructor <;> ring_nf <;> omega
  · rw [hup]
    constructor <;> ring_nf <;> omega

/-- Rounding never goes below the whole quotient. -/
theorem div_le_divNearest (n d : Nat) : n / d ≤ divNearest n d := by
  rcases divNearest_cases n d with ⟨hround, -⟩ | ⟨hround, -⟩ <;> omega

/-- A rounded quotient is at most half a unit away. -/
theorem abs_divNearest_sub_le {n d : Nat} (hd : 0 < d) :
    |(divNearest n d : ℚ) - n / d| ≤ 1 / 2 := by
  obtain ⟨hbelow, habove⟩ := divNearest_bounds (n := n) hd
  have hpos : (0 : ℚ) < d := by exact_mod_cast hd
  have hbelow' : (2 * n : ℚ) ≤ (2 * divNearest n d + 1) * d := by exact_mod_cast hbelow
  have habove' : (2 * divNearest n d * d : ℚ) ≤ 2 * n + d := by exact_mod_cast habove
  have hquotient : (n / d : ℚ) * d = n := div_mul_cancel₀ _ hpos.ne'
  rw [abs_sub_le_iff]
  constructor
  · refine le_of_mul_le_mul_right ?_ hpos
    linarith
  · refine le_of_mul_le_mul_right ?_ hpos
    linarith

/-- From half a unit below an even number on, a quotient is rounded up to it. -/
theorem le_divNearest_iff {n d m : Nat} (hd : 0 < d) (heven : m % 2 = 0) :
    m ≤ divNearest n d ↔ 2 * m * d ≤ 2 * n + d := by
  constructor
  · intro h
    calc 2 * m * d ≤ 2 * divNearest n d * d := by gcongr
      _ ≤ 2 * n + d := (divNearest_bounds hd).2
  · intro h
    have hsplit := Nat.div_add_mod n d
    have hrest := Nat.mod_lt n hd
    rcases Nat.lt_trichotomy m (n / d + 1) with hlt | heq | hgt
    · exact (Nat.lt_succ_iff.mp hlt).trans (div_le_divNearest n d)
    · -- The tie below an even number is one above an odd number.
      have hnext : 2 * m * d = 2 * (d * (n / d)) + 2 * d := by
        rw [heq]
        ring
      rw [hnext] at h
      rw [divNearest, if_neg (by omega)]
      split
      · rw [if_neg (by omega)]
        exact heq.le
      · exact heq.le
    · have hfar : (n / d + 2) * d ≤ m * d := Nat.mul_le_mul_right d hgt
      have hnear : (n / d + 2) * d = d * (n / d) + 2 * d := by ring
      have htwice : 2 * m * d = 2 * (m * d) := Nat.mul_assoc 2 m d
      omega

/-! ### Ratios -/

theorem value_nonneg (x : Binary64) : 0 ≤ x.value := by
  rw [value]
  positivity

/-- The bits of a magnitude leave the sign alone. -/
theorem nearest_lt (num den : Nat) : nearest num den < 2 ^ 63 := by
  rw [nearest]
  split
  · exact Nat.two_pow_pos 63
  · exact (min_le_right _ _).trans_lt (by decide)

/-- The number with the significand `q` at the place `e`. A significand of `2 ^ 53` has carried into
the exponent. -/
theorem value_ofMagnitude (negative : Bool) {e : ℤ} {q : Nat} (hleast : -1074 ≤ e) (he : e ≤ 971)
    (hq : q ≤ 2 ^ 53) (hnormal : e = -1074 ∨ 2 ^ 52 ≤ q) :
    (ofMagnitude negative ((e + 1074).toNat <<< 52 + q)).value = q * 2 ^ e := by
  obtain ⟨steps, hsteps⟩ := Int.eq_ofNat_of_zero_le (by omega : 0 ≤ e + 1074)
  obtain rfl : e = steps - 1074 := by omega
  rw [hsteps, Int.toNat_natCast, Nat.shiftLeft_eq]
  generalize hx : ofMagnitude negative (steps * 2 ^ 52 + q) = x
  have hmagnitude : x.magnitude = steps * 2 ^ 52 + q := hx ▸ magnitude_ofMagnitude (by omega)
  rw [value_eq, significand, exponent, exponentBits, fractionBits, hmagnitude, Nat.one_shiftLeft,
    Nat.shiftRight_eq_div_pow]
  rcases Nat.lt_trichotomy q (2 ^ 53) with hlt | rfl | hgt
  · rcases Nat.lt_or_ge q (2 ^ 52) with hsmall | hlarge
    · -- No bit of the exponent is set.
      obtain rfl : steps = 0 := by omega
      have hbits : (0 * 2 ^ 52 + q) / 2 ^ 52 = 0 := by omega
      have hfraction : (0 * 2 ^ 52 + q) % 2 ^ 52 = q := by omega
      rw [hbits, hfraction, if_pos rfl, if_pos rfl]
      rfl
    · have hbits : (steps * 2 ^ 52 + q) / 2 ^ 52 = steps + 1 := by omega
      have hfraction : 2 ^ 52 + (steps * 2 ^ 52 + q) % 2 ^ 52 = q := by omega
      rw [hbits, hfraction, if_neg (by omega), if_neg (by omega)]
      congr 2
      push_cast
      omega
  · have hbits : (steps * 2 ^ 52 + 2 ^ 53) / 2 ^ 52 = steps + 2 := by omega
    have hfraction : (steps * 2 ^ 52 + 2 ^ 53) % 2 ^ 52 = 0 := by omega
    have hexponent : ((steps + 2 : Nat) : ℤ) - 1075 = 1 + (steps - 1074) := by omega
    rw [hbits, hfraction, if_neg (by omega), if_neg (by omega), hexponent, zpow_add₀ two_ne_zero]
    push_cast
    ring
  · exact absurd hq (Nat.not_le.mpr hgt)

/-- **The number nearest to a ratio** is the quotient at some last place, rounded. -/
theorem value_nearest (negative : Bool) {num den k : Nat} (hden : 0 < den) (hk : k ≤ 1023)
    (h : (num : ℚ) / den < 2 ^ k) :
    ∃ e : ℤ, e ≤ k - 53 ∧ (ofMagnitude negative (nearest num den)).value =
      divNearest (scaled num den e).1 (scaled num den e).2 * 2 ^ e := by
  by_cases hnum : num = 0
  · refine ⟨-1074, by omega, ?_⟩
    have hzero : (scaled num den (-1074)).1 = 0 := by simp [hnum, scaled]
    have hquotient : divNearest (scaled num den (-1074)).1 (scaled num den (-1074)).2 ≤ 0 :=
      divNearest_le (scaled_den_pos hden _) (by rw [hzero, Nat.zero_mul])
    have hvalue := value_ofMagnitude negative (q := 0) le_rfl (by omega) (by omega) (Or.inl rfl)
    rw [Nat.le_zero.mp hquotient, nearest, if_pos hnum]
    simpa using hvalue
  · obtain ⟨hleast, habove, hbelow⟩ := lastPlace_spec hnum hden
    have hbits := nearest_le hden h.le
    rw [nearest, if_neg hnum] at hbits ⊢
    dsimp only at hbits ⊢
    generalize lastPlace num den = e at hleast habove hbelow hbits ⊢
    have hpos : 0 < (scaled num den e).2 := scaled_den_pos hden e
    -- A ratio that is below `2 ^ k` has its last place low enough for the exponent not to overflow.
    have hlow : e ≤ k - 53 := by
      rcases hbelow with hbelow | hbelow
      · omega
      · have hlt := (zpow_lt_zpow_iff_right₀ one_lt_two).mp
          (hbelow.trans_lt (h.trans_eq (zpow_natCast 2 k).symm))
        omega
    have hround := divNearest_le hpos ((scaled_le_iff hden e 53).mpr habove)
    -- The significand has its full length, or the number is one of the smallest.
    have hnormal : e = -1074 ∨ 2 ^ 52 ≤ divNearest (scaled num den e).1 (scaled num den e).2 := by
      refine hbelow.imp_right ?_
      intro hle
      exact ((Nat.le_div_iff_mul_le hpos).mpr ((le_scaled_iff hden e 52).mpr hle)).trans
        (div_le_divNearest _ _)
    refine ⟨e, hlow, ?_⟩
    rw [min_eq_left (by simp only [infinityBits]; omega)]
    exact value_ofMagnitude negative hleast (by omega) hround hnormal

/-- A ratio below `2 ^ k` is missed by half a unit of its last place at most. -/
theorem abs_value_nearest_sub_le (negative : Bool) {num den k : Nat} (hden : 0 < den)
    (hk : k ≤ 1023) (h : (num : ℚ) / den < 2 ^ k) :
    |(ofMagnitude negative (nearest num den)).value - num / den| ≤ 2 ^ ((k : ℤ) - 54) := by
  obtain ⟨e, he, hvalue⟩ := value_nearest negative hden hk h
  have hpos := two_zpow_pos e
  have hplace : 0 < (scaled num den e).2 := scaled_den_pos hden e
  have hquotient := abs_divNearest_sub_le (n := (scaled num den e).1) hplace
  rw [scaled_ratio] at hquotient
  calc |(ofMagnitude negative (nearest num den)).value - num / den|
      = |(divNearest (scaled num den e).1 (scaled num den e).2 : ℚ) - num / den / 2 ^ e| *
          2 ^ e := by
        rw [hvalue, ← abs_of_pos hpos, ← abs_mul, abs_of_pos hpos, sub_mul,
          div_mul_cancel₀ _ hpos.ne']
    _ ≤ 1 / 2 * 2 ^ e := mul_le_mul_of_nonneg_right hquotient hpos.le
    _ = 2 ^ (e - 1) := by rw [zpow_sub_one₀ two_ne_zero, one_div, mul_comm]
    _ ≤ 2 ^ ((k : ℤ) - 54) := two_zpow_le (by omega)

/-- **Rounding does not pass a whole number** that is small enough to be a number itself. -/
theorem value_nearest_le (negative : Bool) {num den m : Nat} (hden : 0 < den) (hm : m < 2 ^ 53)
    (h : num ≤ m * den) : (ofMagnitude negative (nearest num den)).value ≤ m := by
  have hratio : (num : ℚ) / den < 2 ^ 53 := by
    rw [div_lt_iff₀ (by exact_mod_cast hden)]
    exact_mod_cast h.trans_lt (Nat.mul_lt_mul_of_pos_right hm hden)
  obtain ⟨e, he, hvalue⟩ := value_nearest negative hden (by omega) hratio
  -- The last place is not above the units, so a whole number has no fraction there.
  obtain ⟨places, rfl⟩ : ∃ places : Nat, e = -places := ⟨(-e).toNat, by omega⟩
  have hround : divNearest (scaled num den (-places)).1 (scaled num den (-places)).2 ≤
      m * 2 ^ places := by
    refine divNearest_le (scaled_den_pos hden _) ?_
    show num <<< (-(-(places : ℤ))).toNat ≤ _ * den <<< (-(places : ℤ)).toNat
    rw [neg_neg, Int.toNat_natCast, Int.toNat_neg_natCast, Nat.shiftLeft_zero, Nat.shiftLeft_eq,
      Nat.mul_right_comm]
    exact Nat.mul_le_mul_right _ h
  rw [hvalue, zpow_neg, zpow_natCast, ← div_eq_mul_inv, div_le_iff₀ (by positivity)]
  exact_mod_cast hround

end Binary64

end TelescopeLink
