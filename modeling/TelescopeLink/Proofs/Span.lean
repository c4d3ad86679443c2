import TelescopeLink.Proofs.Binary64.Rounding
import TelescopeLink.Span

/-!
# Stretched estimates

An estimate is at most what 64 bits of milliseconds tell, and that is so far below the bound of
spans that stretching it always gives a span (`exists_stretch?`): each rounded operation on the way
stays below a power of two, by `Proofs/Binary64/Rounding.lean`.
-/

namespace TelescopeLink

namespace Span

/-- The spans that 64 bits of milliseconds can tell, and what lies between them. -/
def Tellable (span : Span) : Prop := span.nanos < 2 ^ 64 * 1000000

theorem tellable_ofMillis (millis : UInt64) : (ofMillis millis).Tellable :=
  Nat.mul_lt_mul_of_pos_right millis.toNat_lt (by decide)

/-- The seconds of such a span are at most `2 ^ 56`, also when rounded. -/
theorem value_inSeconds_le {span : Span} (h : span.Tellable) : span.inSeconds.value ≤ 2 ^ 56 := by
  unfold Tellable at h
  have hseconds : (Binary64.ofNat (span.nanos / nanosPerSecond)).value ≤ 2 ^ 55 :=
    Binary64.value_ofNat_le (by omega) (by unfold nanosPerSecond; omega)
  have hnanos : (Binary64.ofNat (span.nanos % nanosPerSecond)).value ≤ 2 ^ 30 :=
    Binary64.value_ofNat_le (by omega) (by unfold nanosPerSecond; omega)
  -- The divisor is exact, so it is far above this.
  have hbillion : (2 : ℚ) ^ 29 ≤ (Binary64.ofNat nanosPerSecond).value := by
    have hden : (0 : ℚ) < (Binary64.ofNat nanosPerSecond).denominator := by
      exact_mod_cast Binary64.denominator_pos _
    have hnum : 2 ^ 29 * (Binary64.ofNat nanosPerSecond).denominator ≤
        (Binary64.ofNat nanosPerSecond).numerator := by decide +kernel
    rw [Binary64.value, le_div_iff₀ hden]
    exact_mod_cast hnum
  have hfraction : ((Binary64.ofNat (span.nanos % nanosPerSecond)).div
      (Binary64.ofNat nanosPerSecond)).value ≤ 2 ^ 1 := by
    refine Binary64.value_div_le (by omega) (by decide +kernel) ?_
    have hpos : (0 : ℚ) < 2 ^ 29 := by positivity
    calc _ ≤ (2 : ℚ) ^ 30 / 2 ^ 29 := div_le_div₀ (by positivity) hnanos hpos hbillion
      _ = 2 ^ 1 := by norm_num
  refine Binary64.value_add_le (by omega) ((add_le_add hseconds hfraction).trans ?_)
  norm_num

/-- **Every estimate can be stretched.** -/
theorem exists_stretch? {span : Span} (h : span.Tellable) :
    ∃ time, span.stretch? = some time := by
  have hfactor : stretchFactor.value ≤ 2 ^ 1 :=
    (Binary64.value_ofRatio_le (by omega) (by omega) (by norm_num)).2
  have hnonneg : 0 ≤ stretchFactor.value := by
    rw [Binary64.value]
    positivity
  have hproduct : span.inSeconds.value * stretchFactor.value ≤ 2 ^ 57 :=
    (mul_le_mul (value_inSeconds_le h) hfactor hnonneg (by positivity)).trans_eq (by norm_num)
  obtain ⟨hfinite, hvalue⟩ := Binary64.value_mul_le (by omega) hproduct
  rw [stretch?, ofInSeconds?, if_pos hfinite, ofNanos?]
  -- The product is finite and below the bound, so only its rounding to nanoseconds is left.
  generalize span.inSeconds.mul stretchFactor = product at hvalue
  have hden : (0 : ℚ) < product.denominator := by exact_mod_cast product.denominator_pos
  rw [Binary64.value, div_le_iff₀ hden] at hvalue
  have hratio : product.numerator ≤ 2 ^ 57 * product.denominator := by exact_mod_cast hvalue
  have hnanos : Binary64.divNearest (product.numerator * nanosPerSecond) product.denominator ≤
      2 ^ 57 * nanosPerSecond := by
    refine Binary64.divNearest_le product.denominator_pos ?_
    calc product.numerator * nanosPerSecond ≤ 2 ^ 57 * product.denominator * nanosPerSecond :=
          Nat.mul_le_mul_right _ hratio
      _ = 2 ^ 57 * nanosPerSecond * product.denominator := Nat.mul_right_comm ..
  have hbound : Binary64.divNearest (product.numerator * nanosPerSecond) product.denominator <
      bound := hnanos.trans_lt (by decide)
  exact ⟨_, if_pos hbound⟩

end Span

end TelescopeLink
