import TelescopeLink.Proofs.Text.Decimal
import TelescopeLink.Proofs.Toml.Text
import TelescopeLink.Toml.Number

/-!
# Whole numbers survive as TOML

A whole number of 64 bits with sign, written in decimal on a line of its own, is read back
(`readNumber_intDigits`). The reader tries moments and numbers with a point first. Both begin with
digits as well, so what makes the difference is the character behind them: the end of the line is
none of the marks that a moment or such a number goes on with.
-/

namespace TelescopeLink.Toml

open TelescopeLink.Text

/-- A whole number that TOML can express. -/
def Fits (n : Int) : Prop := Int64.minValue.toInt ≤ n ∧ n ≤ Int64.maxValue.toInt

/-- It has 63 bits and a sign. -/
theorem fits_iff {n : Int} : Fits n ↔ -(1 <<< 63 : Nat) ≤ n ∧ n < (1 <<< 63 : Nat) := by
  have hmin : Int64.minValue.toInt = -9223372036854775808 := by decide
  have hmax : Int64.maxValue.toInt = 9223372036854775807 := by decide
  have hbound : (1 <<< 63 : Nat) = 9223372036854775808 := by decide
  rw [Fits]
  omega

theorem fitting?_of_fits {n : Int} (h : Fits n) : fitting? n = some (.whole n) := if_pos h

theorem fits_of_fitting? {n : Int} {value : Value} (h : fitting? n = some value) :
    Fits n ∧ value = .whole n := by
  unfold fitting? at h
  split_ifs at h with hfits
  exact ⟨hfits, (Option.some.inj h).symm⟩

/-! ### Digits up to the end of the line -/

section Digits

variable {ds : List Char} (h : ∀ d ∈ ds, d.isDigit = true)
include h

/-- Digits are read up to the end of the line, since no underscore parts them. -/
theorem readGroups_append (hne : ds ≠ []) (rest : List Char) :
    readGroups Char.isDigit (ds ++ '\n' :: rest) = some (ds, '\n' :: rest) := by
  induction ds with
  | nil => exact absurd rfl hne
  | cons d ds ih =>
    obtain ⟨hd, hds⟩ := List.forall_mem_cons.mp h
    match ds with
    | [] => simp [readGroups, hd]
    | e :: es =>
      have he : e.isDigit = true := hds e List.mem_cons_self
      have hline : e ≠ '_' := by rintro rfl; exact absurd he (by decide)
      have hnext := ih hds (List.cons_ne_nil e es)
      rw [List.cons_append] at hnext
      rw [List.cons_append, List.cons_append, readGroups, if_pos hd, if_pos he, hnext, prepend_some]
      exact hline

/-- Behind a field of digits there are more of them or the line ends, so no mark follows. -/
theorem readMark_of_readField {mark : Char} (hmark : mark.isDigit = false) (hbreak : mark ≠ '\n')
    {width low high n : Nat} {rest more : List Char}
    (hfield : readField width low high (ds ++ '\n' :: rest) = some (n, more)) :
    readMark mark more = none := by
  simp only [readField] at hfield
  split_ifs at hfield with hdigits hbounds
  obtain ⟨-, rfl⟩ := Prod.mk.inj (Option.some.inj hfield)
  have hwidth : width ≤ ds.length := by
    by_contra hlong
    have hmem : '\n' ∈ (ds ++ '\n' :: rest).take width := by
      rw [List.take_append, List.mem_append]
      refine .inr ?_
      obtain ⟨k, hk⟩ : ∃ k, width - ds.length = k + 1 := ⟨width - ds.length - 1, by omega⟩
      simp [hk]
    exact absurd (List.all_eq_true.mp hdigits.2 _ hmem) (by decide)
  rw [List.drop_append_of_le_length hwidth]
  match hdrop : ds.drop width with
  | [] => simp [readMark, Ne.symm hbreak]
  | d :: _ =>
    have hd : d.isDigit = true :=
      h d (List.mem_of_mem_drop (hdrop ▸ List.mem_cons_self))
    have hne : d ≠ mark := by
      rintro rfl
      simp [hmark] at hd
    simp [readMark, hne]

/-- Digits alone are no moment, as neither a date nor a time is without marks. -/
theorem skipMoment_append (rest : List Char) : skipMoment (ds ++ '\n' :: rest) = none := by
  have hdate : skipDate (ds ++ '\n' :: rest) = none := by
    rw [skipDate]
    cases hfield : readField 4 0 9999 (ds ++ '\n' :: rest) with
    | none => rfl
    | some field =>
      have hmark : readMark '-' field.2 = none :=
        readMark_of_readField h (by decide) (by decide) hfield
      simp [hmark]
  have htime : skipTime (ds ++ '\n' :: rest) = none := by
    rw [skipTime]
    cases hfield : readField 2 0 23 (ds ++ '\n' :: rest) with
    | none => rfl
    | some field =>
      have hmark : readMark ':' field.2 = none :=
        readMark_of_readField h (by decide) (by decide) hfield
      simp [hmark]
  rw [skipMoment, hdate, htime]

end Digits

/-- A moment does not begin with a sign. -/
theorem skipMoment_minus (cs : List Char) : skipMoment ('-' :: cs) = none := by
  have hfield (width low high : Nat) : readField (width + 1) low high ('-' :: cs) = none := by
    simp [readField]
  rw [skipMoment, skipDate, skipTime, hfield, hfield]
  rfl

/-! ### Whole numbers -/

/-- The digits of a number are read as they stand, with no zero in front that would not be allowed.
-/
@[simp] theorem readDecimalDigits_natDigits (n : Nat) (rest : List Char) :
    readDecimalDigits (natDigits n ++ '\n' :: rest) = some (natDigits n, '\n' :: rest) := by
  have hgroups := readGroups_append (fun _ => isDigit_of_mem_natDigits) (natDigits_ne_nil n) rest
  rcases natDigits_cases n with hzero | ⟨d, ds, hds, -, hd⟩
  · rw [hzero]
    rfl
  · rw [hds, List.cons_append] at hgroups ⊢
    rw [readDecimalDigits, hgroups]
    simp [hd]

theorem readSign_natDigits (n : Nat) (rest : List Char) :
    readSign (natDigits n ++ rest) = (none, natDigits n ++ rest) := by
  rcases natDigits_cases n with hzero | ⟨d, ds, hds, hd, -⟩
  · rw [hzero]
    rfl
  · have hminus : d ≠ '-' := by rintro rfl; exact absurd hd (by decide)
    have hplus : d ≠ '+' := by rintro rfl; exact absurd hd (by decide)
    simp [hds, readSign, hminus, hplus]

@[simp] theorem readSign_intDigits (n : Int) (rest : List Char) :
    readSign (intDigits n ++ rest) =
      (if n < 0 then some true else none, natDigits n.natAbs ++ rest) := by
  unfold intDigits
  split_ifs with hn
  · rfl
  · exact readSign_natDigits n.natAbs rest

/-- So a whole number is not taken for a moment. -/
theorem readMoment_intDigits (n : Int) (rest : List Char) :
    readMoment (intDigits n ++ '\n' :: rest) = none := by
  unfold intDigits readMoment
  split_ifs
  · rw [List.cons_append, skipMoment_minus, Option.map_none]
  · rw [skipMoment_append fun _ => isDigit_of_mem_natDigits, Option.map_none]

/-- Nor for one with a fraction, as there is neither a point nor an exponent. -/
theorem readReal_intDigits (n : Int) (rest : List Char) :
    readReal (intDigits n ++ '\n' :: rest) = none := by
  obtain ⟨d, ds, hds, hd⟩ : ∃ d ds, natDigits n.natAbs = d :: ds ∧ d.isDigit = true := by
    rcases natDigits_cases n.natAbs with hzero | ⟨d, ds, hds, hd, -⟩
    · exact ⟨'0', [], hzero, by decide⟩
    · exact ⟨d, ds, hds, hd⟩
  have hinf : d ≠ 'i' := by rintro rfl; exact absurd hd (by decide)
  have hnan : d ≠ 'n' := by rintro rfl; exact absurd hd (by decide)
  have hdigits := readDecimalDigits_natDigits n.natAbs rest
  rw [readReal, readSign_intDigits]
  rw [hds, List.cons_append] at hdigits ⊢
  simp [hinf, hnan, hdigits, readExponent]

/-- What is left is a whole number, in decimal and not in another base. -/
theorem readWhole_intDigits {n : Int} (h : Fits n) (rest : List Char) :
    readWhole (intDigits n ++ '\n' :: rest) = some (.whole n, '\n' :: rest) := by
  have hsign := readSign_intDigits n ('\n' :: rest)
  have hvalue : (if n < 0 then -(n.natAbs : Int) else n.natAbs) = n := by
    split_ifs <;> omega
  -- The marks of the other bases stand behind a zero.
  have hdecimal (x : Char) (hx : x ≠ '\n') (more : List Char) :
      intDigits n ++ '\n' :: rest ≠ '0' :: x :: more := by
    unfold intDigits
    split_ifs
    · simp
    · rcases natDigits_cases n.natAbs with hzero | ⟨d, ds, hds, -, hd⟩
      · simp [hzero, Ne.symm hx]
      · simp [hds, hd]
  rw [readWhole, hsign]
  · simp only [readDecimalDigits_natDigits, Option.bind_eq_bind, Option.bind_some, ite_eq_left_iff,
      reduceCtorEq, imp_false, not_not, digitsValue_natDigits, hvalue, fitting?_of_fits h]
    rfl
  · exact hdecimal 'x' (by decide)
  · exact hdecimal 'o' (by decide)
  · exact hdecimal 'b' (by decide)

/-- A whole number that was written is read back as itself and not as a number of another kind. -/
theorem readNumber_intDigits {n : Int} (h : Fits n) (rest : List Char) :
    readNumber (intDigits n ++ '\n' :: rest) = some (.whole n, '\n' :: rest) := by
  rw [readNumber, readMoment_intDigits, readReal_intDigits, readWhole_intDigits h]
  rfl

end TelescopeLink.Toml
