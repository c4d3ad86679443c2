import TelescopeLink.Proofs.Binary64.Angle
import TelescopeLink.Proofs.Dialect.Wording

/-!
# Where a slew points

The control system is given a right ascension in one turn, in degrees with six places. The angle is
reduced first and rounded to its places afterwards, so the two ends of the turn meet in the text:
from half a unit of the last place below the turn on, and for a negative angle too near to zero,
the text says 360 and not 0 (`render_slew`, `render_slew_full_turn`). It never says more.
-/

namespace TelescopeLink

namespace Dialect

open Text Binary64

/-- The words of a slew: its verb and the two angles. -/
theorem words_of_render_slew {ra dec : Binary64} {text : String}
    (h : Dialect.tcs.render (.slew ra dec) = .ok (some text)) :
    words text.toList = ["SLEW".toList, (ra.wrapAngle 360).fixed 6, dec.fixed 6] := by
  obtain ⟨haccepts, -, htext⟩ := unwords_of_render (by simp) h
  have hwords : ∀ word ∈ verb .tcs (.slew ra dec) :: arguments .tcs (.slew ra dec), IsWord word :=
    List.forall_mem_cons.mpr ⟨isWord_verb _ _, isWord_arguments haccepts⟩
  rw [htext, words_unwords hwords]
  rfl

/-- A reduced angle is written without a minus, unless it is zero. -/
theorem roundedTo_wrapAngle (x : Binary64) {turn : Nat} (places : Nat) (hturn : 0 < turn) :
    (x.wrapAngle turn).roundedTo places =
      (x.wrapAngle turn).inPlaces places / 10 ^ places := by
  have hsigned := signed_wrapAngle x hturn
  rw [roundedTo]
  split
  · rename_i hnegative
    rw [signed, if_pos hnegative] at hsigned
    -- A minus would make the angle less than zero, which the reduced one is not.
    have hnone : (x.wrapAngle turn).value ≤ (0 : Nat) := by
      rw [Nat.cast_zero]
      linarith
    have hunits := inPlaces_le places hnone
    rw [Nat.zero_mul] at hunits
    rw [Nat.le_zero.mp hunits]
    simp
  · rfl

/-- The right ascension, read as a decimal: from zero to the turn, which it reaches from half a unit
of the last place below on, and the given angle but for whole turns and two roundings. -/
theorem written_rightAscension (ra : Binary64) :
    ∃ a, decimal? ((ra.wrapAngle 360).fixed 6) = some a ∧ 0 ≤ a ∧ a ≤ 360 ∧
      (a = 360 ↔ 359.9999995 ≤ (ra.wrapAngle 360).value) ∧
      ∃ turns : ℤ, |a + 360 * turns - ra.signed| ≤ 0.0000005 + 2 ^ (-45 : ℤ) := by
  have hwritten : decimal? ((ra.wrapAngle 360).fixed 6) = some _ := decimal?_fixed (by decide) _
  rw [roundedTo_wrapAngle ra 6 (by decide)] at hwritten
  have hmost : (ra.wrapAngle 360).inPlaces 6 ≤ 360 * 10 ^ 6 :=
    inPlaces_le 6 (value_wrapAngle_le ra (by decide) (by decide))
  have hleast := le_inPlaces_iff (x := ra.wrapAngle 360) 6 (m := 360 * 10 ^ 6) (by decide)
  have hnear := abs_inPlaces_sub_le (x := ra.wrapAngle 360) 6
  have hbelow : 360 < 2 ^ 9 := by decide
  obtain ⟨turns, hturns⟩ := exists_turns ra (by decide) (by decide) hbelow
  -- From here on it is arithmetic about the units of the last place.
  generalize (ra.wrapAngle 360).inPlaces 6 = units at *
  generalize (ra.wrapAngle 360).value = reduced at *
  refine ⟨_, hwritten, by positivity, ?_, ?_, turns, ?_⟩
  · rw [div_le_iff₀ (by norm_num)]
    exact_mod_cast hmost
  · have hfull : (units / 10 ^ 6 : ℚ) = 360 ↔ 360 * 10 ^ 6 ≤ units := by
      rw [div_eq_iff (by norm_num)]
      constructor
      · intro h
        exact (by exact_mod_cast h.ge : 360 * 10 ^ 6 ≤ units)
      · intro h
        exact_mod_cast le_antisymm hmost h
    rw [hfull, hleast]
    push_cast
    constructor <;> intro h <;> linarith
  · rw [abs_le] at *
    norm_num at *
    constructor <;> linarith

/-- The declination, read as a decimal: between the poles, and the given angle but for rounding. -/
theorem written_declination {dec : Binary64} (hpole : dec.value ≤ 90) :
    ∃ d, decimal? (dec.fixed 6) = some d ∧ |d| ≤ 90 ∧ |d - dec.signed| ≤ 0.0000005 := by
  have hmost := abs_roundedTo_le (x := dec) 6 (n := 90) hpole
  have hnear := abs_roundedTo_sub_le (x := dec) 6
  refine ⟨_, decimal?_fixed (by decide) dec, hmost, hnear.trans (by norm_num)⟩

/-- **Where a slew points.** The control system takes every slew to a finite right ascension and a
finite declination between the poles, and what it writes has two arguments. The first, read as a
decimal, is from zero to 360, and the given angle but for whole turns, half a unit of its last place
and one rounding of a sum below 512. It is 360 exactly if the angle in one turn is not further than
half a unit of that place below. The second is between −90 and 90, and the given declination to half
a unit. -/
theorem render_slew {ra dec : Binary64} (hra : ra.isFinite = true) (hdec : dec.isFinite = true)
    (hpole : dec.value ≤ 90) :
    ∃ text first second a d,
      Dialect.tcs.render (.slew ra dec) = .ok (some text) ∧
      words text.toList = ["SLEW".toList, first, second] ∧
      decimal? first = some a ∧ decimal? second = some d ∧
      0 ≤ a ∧ a ≤ 360 ∧ (a = 360 ↔ 359.9999995 ≤ (ra.wrapAngle 360).value) ∧
      (∃ turns : ℤ, |a + 360 * turns - ra.signed| ≤ 0.0000005 + 2 ^ (-45 : ℤ)) ∧
      |d| ≤ 90 ∧ |d - dec.signed| ≤ 0.0000005 := by
  have hrender : Dialect.tcs.render (.slew ra dec) = .ok (some _) :=
    render_eq_ok_iff.mpr ⟨⟨hra, hdec, fun _ => hpole⟩, rfl⟩
  obtain ⟨a, hfirst, hleast, hmost, hfull, hturns⟩ := written_rightAscension ra
  obtain ⟨d, hsecond, hbetween, hnear⟩ := written_declination hpole
  exact ⟨_, _, _, a, d, hrender, words_of_render_slew hrender, hfirst, hsecond, hleast, hmost,
    hfull, hturns, hbetween, hnear⟩

/-- A slew to −10⁻²⁰ degrees and the south pole. -/
theorem render_slew_south_pole :
    ∃ first second a d,
      Dialect.tcs.render (.slew ⟨0xbbc79ca10c924223⟩ ⟨0xc056800000000000⟩) =
        .ok (some "SLEW 360.000000 -90.000000") ∧
      words "SLEW 360.000000 -90.000000".toList = ["SLEW".toList, first, second] ∧
      decimal? first = some a ∧ decimal? second = some d ∧ a ≤ 360 ∧ |d| ≤ 90 := by
  have hra : (⟨0xbbc79ca10c924223⟩ : Binary64).isFinite = true := by decide
  have hdec : (⟨0xc056800000000000⟩ : Binary64).isFinite = true := by decide
  have hpole : (⟨0xc056800000000000⟩ : Binary64).value ≤ 90 :=
    Binary64.magnitudeAtMost_iff.mp (by decide +kernel)
  have htext : Dialect.tcs.render (.slew ⟨0xbbc79ca10c924223⟩ ⟨0xc056800000000000⟩) =
      .ok (some "SLEW 360.000000 -90.000000") := by decide +kernel
  obtain ⟨text, first, second, a, d, hrender, hwords, hfirst, hsecond, -, hmost, -, -, hbetween, -⟩ :=
    render_slew hra hdec hpole
  obtain rfl : "SLEW 360.000000 -90.000000" = text :=
    Option.some.inj (Except.ok.inj (htext.symm.trans hrender))
  exact ⟨first, second, a, d, htext, hwords, hfirst, hsecond, hmost, hbetween⟩

/-- A slew to 359.9999999 degrees is put as one to 360, and a reader of decimals reads that. -/
theorem render_slew_full_turn :
    Dialect.tcs.Accepts (.slew ⟨0x40767fffffe5280d⟩ .zero) ∧
    Dialect.tcs.render (.slew ⟨0x40767fffffe5280d⟩ .zero) =
      .ok (some "SLEW 360.000000 0.000000") ∧
    words "SLEW 360.000000 0.000000".toList =
      ["SLEW".toList, "360.000000".toList, "0.000000".toList] ∧
    decimal? "360.000000".toList = some 360 := by
  have htext : Dialect.tcs.render (.slew ⟨0x40767fffffe5280d⟩ .zero) =
      .ok (some "SLEW 360.000000 0.000000") := by decide +kernel
  exact ⟨(render_eq_ok_iff.mp htext).1, htext, by decide +kernel, by decide +kernel⟩

end Dialect

end TelescopeLink
