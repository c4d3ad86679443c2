import TelescopeLink.Binary64.Fixed
import TelescopeLink.Binary64.Shortest
import TelescopeLink.Proofs.Text.Blank

/-!
# The characters of a number

A finite number is written in digits, with a minus and a point at most besides, both with a fixed
number of places and in its shortest form. So in both it is one word (`isWord_fixed`,
`isWord_plain`).
-/

namespace TelescopeLink.Binary64

/-- A character that numbers are written with. -/
def IsNumeral (c : Char) : Prop := c.isDigit = true ∨ c = '-' ∨ c = '.'

theorem isNumeral_of_mem_toDigits {n : Nat} {c : Char} (h : c ∈ Nat.toDigits 10 n) :
    IsNumeral c :=
  Or.inl (Nat.isDigit_of_mem_toDigits (by decide) (by decide) h)

theorem isNumeral_of_mem_zeros {n : Nat} {c : Char} (h : c ∈ List.replicate n '0') :
    IsNumeral c := by
  obtain rfl := List.eq_of_mem_replicate h
  exact Or.inl rfl

theorem isNumeral_of_mem_sign {negative : Bool} {c : Char}
    (h : c ∈ if negative then ['-'] else []) : IsNumeral c := by
  cases negative with
  | false => exact absurd h (by simp)
  | true => exact Or.inr (Or.inl (List.mem_singleton.mp h))

/-- Digits, and with places a point between them. -/
theorem isNumeral_of_mem_placesText {places n : Nat} {c : Char} (h : c ∈ placesText places n) :
    IsNumeral c := by
  unfold placesText at h
  dsimp only at h
  split at h
  · exact isNumeral_of_mem_toDigits h
  · simp only [List.mem_append, List.mem_cons, or_assoc] at h
    rcases h with hwhole | rfl | hzeros | hpart
    · exact isNumeral_of_mem_toDigits hwhole
    · exact Or.inr (Or.inr rfl)
    · exact isNumeral_of_mem_zeros hzeros
    · exact isNumeral_of_mem_toDigits hpart

/-- A number with a fixed number of places. -/
theorem isNumeral_of_mem_fixed {places : Nat} {x : Binary64} {c : Char} (h : c ∈ x.fixed places) :
    IsNumeral c := by
  rcases List.mem_append.mp h with hsign | hplaces
  · exact isNumeral_of_mem_sign hsign
  · exact isNumeral_of_mem_placesText hplaces

/-- Without an exponent a decimal is digits and zeros, and a point if it has a fraction. -/
theorem Decimal.isNumeral_of_mem_positional {d : Decimal} {c : Char} (h : c ∈ d.positional) :
    IsNumeral c := by
  unfold Decimal.positional Decimal.text at h
  dsimp only at h
  split at h
  · rcases List.mem_append.mp h with htext | hzeros
    · exact isNumeral_of_mem_toDigits htext
    · exact isNumeral_of_mem_zeros hzeros
  · split at h
    · rw [List.mem_append, List.mem_cons] at h
      rcases h with hwhole | rfl | hpart
      · exact isNumeral_of_mem_toDigits (List.mem_of_mem_take hwhole)
      · exact Or.inr (Or.inr rfl)
      · exact isNumeral_of_mem_toDigits (List.mem_of_mem_drop hpart)
    · simp only [List.mem_append, List.mem_cons, or_assoc] at h
      rcases h with rfl | rfl | hzeros | htext
      · exact Or.inl rfl
      · exact Or.inr (Or.inr rfl)
      · exact isNumeral_of_mem_zeros hzeros
      · exact isNumeral_of_mem_toDigits htext

/-- A finite number in its shortest form. -/
theorem isNumeral_of_mem_plain {x : Binary64} (hfinite : x.isFinite = true) {c : Char}
    (h : c ∈ x.plain) : IsNumeral c := by
  have hlt : x.magnitude < infinityBits := of_decide_eq_true hfinite
  have hnan : ¬x.isNaN = true := by
    rw [isNaN, decide_eq_true_eq]
    exact Nat.not_lt_of_lt hlt
  have hinfinite : ¬x.isInfinite = true := by
    rw [isInfinite, beq_iff_eq]
    exact Nat.ne_of_lt hlt
  -- A finite number has no name of its own, so it is a zero or written in its digits.
  rw [plain, if_neg hnan] at h
  dsimp only at h
  rw [if_neg hinfinite] at h
  split at h
  · rcases List.mem_append.mp h with hsign | hzero
    · exact isNumeral_of_mem_sign hsign
    · exact Or.inl (List.mem_singleton.mp hzero ▸ rfl)
  · rcases List.mem_append.mp h with hsign | hdigits
    · exact isNumeral_of_mem_sign hsign
    · exact Decimal.isNumeral_of_mem_positional hdigits

/-! ### A number is a word -/

/-- No character of a number is a blank. -/
theorem isBlank_of_isNumeral {c : Char} (h : IsNumeral c) : Text.isBlank c = false := by
  rcases h with h | rfl | rfl
  · have hbounds : 48 ≤ c.toNat ∧ c.toNat ≤ 57 := by
      simpa [Char.isDigit, UInt32.le_iff_toNat_le] using h
    simp only [Text.isBlank, Bool.or_eq_false_iff, Bool.and_eq_false_iff, beq_eq_false_iff_ne,
      decide_eq_false_iff_not]
    omega
  · rfl
  · rfl

theorem placesText_ne_nil (places n : Nat) : placesText places n ≠ [] := by
  unfold placesText
  dsimp only
  split
  · exact Nat.toDigits_ne_nil
  · simp

/-- A number with a fixed number of places is a word. -/
theorem isWord_fixed (places : Nat) (x : Binary64) : Text.IsWord (x.fixed places) := by
  refine ⟨?_, fun c hc => isBlank_of_isNumeral (isNumeral_of_mem_fixed hc)⟩
  exact List.append_ne_nil_of_right_ne_nil _ (placesText_ne_nil places _)

theorem Decimal.positional_ne_nil (d : Decimal) : d.positional ≠ [] := by
  unfold Decimal.positional
  dsimp only
  split
  · exact List.append_ne_nil_of_left_ne_nil Nat.toDigits_ne_nil _
  · split <;> simp

theorem plain_ne_nil (x : Binary64) : x.plain ≠ [] := by
  unfold plain
  dsimp only
  split
  · decide
  · split
    · exact List.append_ne_nil_of_right_ne_nil _ (by decide)
    · split
      · simp
      · exact List.append_ne_nil_of_right_ne_nil _ (Decimal.positional_ne_nil _)

/-- So is a finite number in its shortest form. Others are written in letters, which are not looked
at here. -/
theorem isWord_plain {x : Binary64} (hfinite : x.isFinite = true) : Text.IsWord x.plain :=
  ⟨plain_ne_nil x, fun _ hc => isBlank_of_isNumeral (isNumeral_of_mem_plain hfinite hc)⟩

end TelescopeLink.Binary64
