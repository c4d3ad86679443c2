import TelescopeLink.Binary64.Fixed
import TelescopeLink.Proofs.Binary64.Accuracy
import TelescopeLink.Proofs.Text.Decimal

/-!
# Numbers with a fixed number of places, read as decimals

`Text.decimal?` is what a text of digits, with a point among them or none, spells exactly. A number
that is written with a fixed number of places spells its own units of the last place
(`decimal?_fixed`), so whatever is to be known of the text is known of `inPlaces`: it is at most half
a unit away from the number, does not pass a whole number, and reaches an even number of units from
half a unit below on.
-/

namespace TelescopeLink

namespace Text

/-- The number that digits spell, with a point among them or none. -/
def unsignedDecimal? (cs : List Char) : Option ℚ :=
  match cs.dropWhile Char.isDigit with
  | [] => (natural? cs).map fun (n : Nat) => (n : ℚ)
  | '.' :: part =>
    (natural? (cs.takeWhile Char.isDigit)).bind fun (whole : Nat) =>
      (natural? part).map fun (units : Nat) => (whole + units / 10 ^ part.length : ℚ)
  | _ => none

/-- The number that a decimal spells: digits as above, behind a minus or none. -/
def decimal? (cs : List Char) : Option ℚ :=
  match cs with
  | '-' :: cs => (unsignedDecimal? cs).map fun q => -q
  | cs => unsignedDecimal? cs

/-- Without a minus the digits are all there is. -/
theorem decimal?_unsigned {cs : List Char} (h : cs.head? ≠ some '-') :
    decimal? cs = unsignedDecimal? cs := by
  unfold decimal?
  split
  · exact absurd rfl h
  · rfl

/-- Zeros in front of digits do not count. -/
theorem digitsValue_zeros_append (count : Nat) (cs : List Char) :
    digitsValue (List.replicate count '0' ++ cs) = digitsValue cs := by
  induction count with
  | zero => rfl
  | succ count ih => exact ih

/-- Digits, a point and digits are read piece by piece. -/
theorem unsignedDecimal?_point {whole part : List Char} (hwhole : IsDigits whole)
    (hpart : IsDigits part) :
    unsignedDecimal? (whole ++ '.' :: part) =
      some ((digitsValue whole : ℚ) + digitsValue part / 10 ^ part.length) := by
  have hread : ∀ {cs : List Char}, IsDigits cs → natural? cs = some (digitsValue cs) :=
    fun hdigits => natural?_eq_some_iff.mpr ⟨hdigits, rfl⟩
  have hdrop : (whole ++ '.' :: part).dropWhile Char.isDigit = '.' :: part := by
    rw [List.dropWhile_append_of_pos hwhole.2]
    rfl
  have htake : (whole ++ '.' :: part).takeWhile Char.isDigit = whole := by
    rw [List.takeWhile_append_of_pos hwhole.2]
    exact List.append_nil whole
  rw [unsignedDecimal?, hdrop, htake, hread hwhole]
  show (natural? part).map _ = _
  rw [hread hpart]
  rfl

end Text

namespace Binary64

open Text

/-- A finite number with its sign. -/
def signed (x : Binary64) : ℚ := if x.isNegative then -x.value else x.value

/-- A finite number in units of the last of `places` decimal places, with its sign. -/
def roundedTo (places : Nat) (x : Binary64) : ℚ :=
  if x.isNegative then -(x.inPlaces places / 10 ^ places) else x.inPlaces places / 10 ^ places

/-! ### The text -/

/-- The digits behind the point, filled up with zeros. -/
theorem isDigits_part {places r : Nat} (hplaces : places ≠ 0) (hr : r < 10 ^ places) :
    let part := List.replicate (places - (Nat.toDigits 10 r).length) '0' ++ Nat.toDigits 10 r
    IsDigits part ∧ digitsValue part = r ∧ part.length = places := by
  intro part
  have hlength : (Nat.toDigits 10 r).length ≤ places :=
    (Nat.length_toDigits_le_iff (by decide) (Nat.pos_of_ne_zero hplaces)).mpr hr
  refine ⟨⟨by simp [part, Nat.toDigits_ne_nil], ?_⟩, ?_, ?_⟩
  · intro c hc
    rcases List.mem_append.mp hc with hzero | hdigit
    · obtain rfl := List.eq_of_mem_replicate hzero
      rfl
    · exact isDigit_of_mem_natDigits hdigit
  · rw [digitsValue_zeros_append]
    exact digitsValue_natDigits r
  · rw [List.length_append, List.length_replicate]
    omega

/-- Units of the last place, with a point before it, are read as so many. -/
theorem unsignedDecimal?_placesText {places : Nat} (hplaces : places ≠ 0) (n : Nat) :
    unsignedDecimal? (placesText places n) = some ((n : ℚ) / 10 ^ places) := by
  have hpow : Nat.pow 10 places = 10 ^ places := rfl
  obtain ⟨hpart, hvalue, hlength⟩ := isDigits_part hplaces
    (Nat.mod_lt n (Nat.pow_pos (n := places) (by decide : 0 < 10)))
  have hdigits : IsDigits (Nat.toDigits 10 (n / 10 ^ places)) := isDigits_natDigits _
  have hwhole : digitsValue (Nat.toDigits 10 (n / 10 ^ places)) = n / 10 ^ places :=
    digitsValue_natDigits _
  have hsplit : (n : ℚ) = 10 ^ places * (n / 10 ^ places : Nat) + (n % 10 ^ places : Nat) := by
    exact_mod_cast (Nat.div_add_mod n (10 ^ places)).symm
  rw [placesText, if_neg hplaces, hpow, List.append_assoc, List.cons_append,
    unsignedDecimal?_point hdigits hpart, hvalue, hlength, hwhole, hsplit, add_div,
    mul_div_cancel_left₀ _ (by positivity)]

/-- **The text of a number** with a fixed number of places spells that many units of the last. -/
theorem decimal?_fixed {places : Nat} (hplaces : places ≠ 0) (x : Binary64) :
    decimal? (x.fixed places) = some (x.roundedTo places) := by
  have hread := unsignedDecimal?_placesText hplaces (x.inPlaces places)
  rw [fixed, roundedTo]
  cases x.isNegative with
  | true =>
      show (unsignedDecimal? (placesText places (x.inPlaces places))).map _ = _
      rw [hread]
      rfl
  | false =>
      have hminus : (placesText places (x.inPlaces places)).head? ≠ some '-' := by
        intro hhead
        rw [placesText, if_neg hplaces, List.append_assoc,
          List.head?_append_of_ne_nil _ Nat.toDigits_ne_nil] at hhead
        exact absurd (isDigit_of_mem_natDigits (List.mem_of_mem_head? hhead)) (by decide)
      rw [if_neg Bool.false_ne_true, if_neg Bool.false_ne_true, List.nil_append,
        decimal?_unsigned hminus, hread]

/-! ### The units -/

section InPlaces

variable {x : Binary64} (places : Nat)

/-- What is rounded to units is the number, scaled by as many powers of ten. -/
theorem inPlaces_ratio :
    ((x.numerator * Nat.pow 10 places : Nat) : ℚ) / x.denominator = x.value * 10 ^ places := by
  rw [value, Nat.pow_eq]
  push_cast
  exact mul_div_right_comm _ _ _

/-- The units are those of the number to within half a one. -/
theorem abs_inPlaces_sub_le :
    |(x.inPlaces places : ℚ) / 10 ^ places - x.value| ≤ 1 / 2 / 10 ^ places := by
  have hpos : (0 : ℚ) < 10 ^ places := by positivity
  have hquotient := abs_divNearest_sub_le (n := x.numerator * Nat.pow 10 places) x.denominator_pos
  rw [inPlaces_ratio] at hquotient
  rw [le_div_iff₀ hpos, ← abs_of_pos hpos, ← abs_mul, abs_of_pos hpos, sub_mul,
    div_mul_cancel₀ _ hpos.ne']
  exact hquotient

/-- A number that is not above a whole number is not written as one above it. -/
theorem inPlaces_le {n : Nat} (h : x.value ≤ n) : x.inPlaces places ≤ n * 10 ^ places := by
  have hpos : (0 : ℚ) < x.denominator := by exact_mod_cast x.denominator_pos
  rw [value, div_le_iff₀ hpos] at h
  have hratio : x.numerator ≤ n * x.denominator := by exact_mod_cast h
  refine divNearest_le x.denominator_pos ?_
  calc x.numerator * 10 ^ places ≤ n * x.denominator * 10 ^ places := Nat.mul_le_mul_right _ hratio
    _ = n * 10 ^ places * x.denominator := Nat.mul_right_comm _ _ _

/-- An even number of units is reached from half a unit below on. -/
theorem le_inPlaces_iff {m : Nat} (heven : m % 2 = 0) :
    m ≤ x.inPlaces places ↔ (m - 1 / 2 : ℚ) ≤ x.value * 10 ^ places := by
  have hpos : (0 : ℚ) < x.denominator := by exact_mod_cast x.denominator_pos
  rw [inPlaces, le_divNearest_iff x.denominator_pos heven, ← inPlaces_ratio, le_div_iff₀ hpos]
  constructor
  · intro h
    have h' : (2 * m * x.denominator : ℚ) ≤
        2 * (x.numerator * Nat.pow 10 places : Nat) + x.denominator := by exact_mod_cast h
    linarith
  · intro h
    have h' : (2 * m * x.denominator : ℚ) ≤
        2 * (x.numerator * Nat.pow 10 places : Nat) + x.denominator := by linarith
    exact_mod_cast h'

/-- With its sign, a number is written to within half a unit. -/
theorem abs_roundedTo_sub_le : |x.roundedTo places - x.signed| ≤ 1 / 2 / 10 ^ places := by
  have hunits := abs_inPlaces_sub_le (x := x) places
  rw [roundedTo, signed]
  split
  · rw [← neg_sub', abs_neg]
    exact hunits
  · exact hunits

/-- With its sign, a number whose magnitude is not above a whole number is written between the two. -/
theorem abs_roundedTo_le {n : Nat} (h : x.value ≤ n) : |x.roundedTo places| ≤ n := by
  have hunits : (x.inPlaces places : ℚ) ≤ n * 10 ^ places := by
    exact_mod_cast inPlaces_le places h
  have hpos : (0 : ℚ) < 10 ^ places := by positivity
  have hmagnitude : |x.roundedTo places| = x.inPlaces places / 10 ^ places := by
    rw [roundedTo]
    split
    · rw [abs_neg, abs_of_nonneg (by positivity)]
    · rw [abs_of_nonneg (by positivity)]
  rw [hmagnitude, div_le_iff₀ hpos]
  exact hunits

end InPlaces

end Binary64

end TelescopeLink
