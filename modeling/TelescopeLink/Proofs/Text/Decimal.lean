import TelescopeLink.Text.Decimal

/-!
# Numbers survive as digits

The digits that a number is written with spell the number (`digitsValue_natDigits`), nothing but
digits is among them, and there is at least one. None is wasted: only zero is written with a zero in
front (`natDigits_eq_cons`), which is what a reader relies on that takes a leading zero for the
whole number.

A number of 32 bits has many texts, with a plus in front or with zeros: `IsWhole` is what they have in
common, and reading takes exactly these (`int32?_eq_some_iff`). One of 64 bits may have a plus, and no
minus (`uint64?_eq_some_iff`).
-/

namespace TelescopeLink.Text

/-- Digits are read as the language itself reads them. -/
theorem digitsValueFrom_eq (value : Nat) (cs : List Char) :
    digitsValueFrom value cs = Nat.ofDigitChars 10 cs value := rfl

/-- Nothing but digits is written. -/
theorem isDigit_of_mem_natDigits {n : Nat} {c : Char} (h : c ∈ natDigits n) : c.isDigit = true :=
  Nat.isDigit_of_mem_toDigits (by decide) (by decide) h

@[simp] theorem natDigits_ne_nil (n : Nat) : natDigits n ≠ [] := Nat.toDigits_ne_nil

@[simp] theorem digitsValue_natDigits (n : Nat) : digitsValue (natDigits n) = n := by
  rw [digitsValue, digitsValueFrom_eq]
  exact Nat.ofDigitChars_toDigits (by decide) (by decide)

/-- The digits of a number begin with a zero only if the number is zero. -/
theorem natDigits_eq_cons {n : Nat} (h : 0 < n) :
    ∃ d ds, natDigits n = d :: ds ∧ d ≠ '0' := by
  induction n using Nat.strongRecOn with
  | ind n ih =>
    by_cases hsmall : n < 10
    · refine ⟨n.digitChar, [], Nat.toDigits_of_lt_base hsmall, fun hzero => ?_⟩
      have hcode := Nat.toNat_digitChar_of_lt_ten hsmall
      rw [hzero] at hcode
      have : '0'.toNat = 48 := rfl
      omega
    · -- All but the last digit are those of the tenth.
      obtain ⟨d, ds, hds, hd⟩ := ih (n / 10) (by omega) (by omega)
      refine ⟨d, ds ++ [(n % 10).digitChar], ?_, hd⟩
      have hsplit : natDigits n = natDigits (n / 10) ++ [(n % 10).digitChar] :=
        Nat.toDigits_of_base_le (by decide) (by omega)
      rw [hsplit, hds, List.cons_append]

/-- A number is zero, or it begins with another digit. -/
theorem natDigits_cases (n : Nat) :
    natDigits n = ['0'] ∨ ∃ d ds, natDigits n = d :: ds ∧ d.isDigit = true ∧ d ≠ '0' := by
  by_cases hzero : n = 0
  · subst hzero
    exact .inl rfl
  · obtain ⟨d, ds, hds, hd⟩ := natDigits_eq_cons (Nat.pos_of_ne_zero hzero)
    exact .inr ⟨d, ds, hds, isDigit_of_mem_natDigits (hds ▸ List.mem_cons_self), hd⟩

/-- A whole number begins with its sign or with a digit. -/
theorem intDigits_eq_cons (n : Int) :
    ∃ c cs, intDigits n = c :: cs ∧ (c = '-' ∨ c.isDigit = true) := by
  unfold intDigits
  split
  · exact ⟨'-', _, rfl, .inl rfl⟩
  · obtain ⟨d, ds, hds⟩ := List.exists_cons_of_ne_nil (natDigits_ne_nil n.natAbs)
    exact ⟨d, ds, hds, .inr (isDigit_of_mem_natDigits (hds ▸ List.mem_cons_self))⟩

/-! ### Numbers of 32 bits -/

/-- Digits and nothing else, at least one. -/
def IsDigits (digits : List Char) : Prop := digits ≠ [] ∧ ∀ c ∈ digits, c.isDigit = true

/-- A row of digits is read as the number that it spells, and nothing else is read. -/
theorem natural?_eq_some_iff {digits : List Char} {n : Nat} :
    natural? digits = some n ↔ IsDigits digits ∧ digitsValue digits = n := by
  simp [natural?, IsDigits]

/-- The text is a whole number in decimal: digits, behind a sign or none. -/
inductive IsWhole : List Char → Int → Prop
  | plain {digits : List Char} (h : IsDigits digits) : IsWhole digits (digitsValue digits)
  | plus {digits : List Char} (h : IsDigits digits) : IsWhole ('+' :: digits) (digitsValue digits)
  | minus {digits : List Char} (h : IsDigits digits) :
      IsWhole ('-' :: digits) (-digitsValue digits)

theorem isDigits_natDigits (n : Nat) : IsDigits (natDigits n) :=
  ⟨natDigits_ne_nil n, fun _ => isDigit_of_mem_natDigits⟩

/-- What is written of a number is its text. -/
theorem isWhole_intDigits (n : Int) : IsWhole (intDigits n) n := by
  have hdigits := isDigits_natDigits n.natAbs
  rw [intDigits]
  split
  · have hvalue : -(n.natAbs : Int) = n := by omega
    have hminus := IsWhole.minus hdigits
    rwa [digitsValue_natDigits, hvalue] at hminus
  · have hvalue : (n.natAbs : Int) = n := by omega
    have hplain := IsWhole.plain hdigits
    rwa [digitsValue_natDigits, hvalue] at hplain

/-- A row of digits as a number of 32 bits, if it fits with the sign that it has. -/
theorem fitting_eq_some_iff {digits : List Char} {fits : Nat → Prop} [DecidablePred fits]
    {sign : Nat → Int} (hfits : ∀ k, fits k ↔ -2147483648 ≤ sign k ∧ sign k < 2147483648)
    {n : Int32} :
    ((natural? digits).bind fun k => if fits k then some (Int32.ofInt (sign k)) else none) =
        some n ↔ IsDigits digits ∧ sign (digitsValue digits) = n.toInt := by
  have hlow := Int32.le_toInt n
  have hhigh := Int32.toInt_lt n
  constructor
  · intro h
    obtain ⟨k, hk, h⟩ := Option.bind_eq_some_iff.mp h
    obtain ⟨hdigits, rfl⟩ := natural?_eq_some_iff.mp hk
    split at h
    · rename_i hfit
      obtain ⟨hmin, hmax⟩ := (hfits _).mp hfit
      rw [← Option.some.inj h, Int32.toInt_ofInt_of_le hmin hmax]
      exact ⟨hdigits, rfl⟩
    · exact absurd h (by simp)
  · intro h
    obtain ⟨hdigits, hvalue⟩ := h
    have hfit : fits (digitsValue digits) := (hfits _).mpr (by omega)
    rw [natural?_eq_some_iff.mpr ⟨hdigits, rfl⟩, Option.bind_some, if_pos hfit, hvalue,
      Int32.ofInt_toInt]

/-- Behind a minus a number of 32 bits may be as large as the least of them. -/
theorem int32?_minus {digits : List Char} {n : Int32} :
    int32? ('-' :: digits) = some n ↔ IsDigits digits ∧ -(digitsValue digits : Int) = n.toInt :=
  fitting_eq_some_iff fun k => by omega

theorem int32?_plus {digits : List Char} {n : Int32} :
    int32? ('+' :: digits) = some n ↔ IsDigits digits ∧ (digitsValue digits : Int) = n.toInt :=
  fitting_eq_some_iff fun k => by omega

theorem int32?_unsigned {cs : List Char} (hminus : cs.head? ≠ some '-') (hplus : cs.head? ≠ some '+')
    {n : Int32} : int32? cs = some n ↔ IsDigits cs ∧ (digitsValue cs : Int) = n.toInt := by
  rw [int32?.eq_def]
  split
  · exact absurd rfl hminus
  · exact absurd rfl hplus
  · exact fitting_eq_some_iff fun k => by omega

/-- **A number of 32 bits** is read from every text of it, and from no other text. -/
theorem int32?_eq_some_iff {cs : List Char} {n : Int32} :
    int32? cs = some n ↔ IsWhole cs n.toInt := by
  constructor
  · intro h
    by_cases hminus : cs.head? = some '-'
    · obtain ⟨digits, rfl⟩ := List.head?_eq_some_iff.mp hminus
      obtain ⟨hdigits, hvalue⟩ := int32?_minus.mp h
      exact hvalue ▸ .minus hdigits
    · by_cases hplus : cs.head? = some '+'
      · obtain ⟨digits, rfl⟩ := List.head?_eq_some_iff.mp hplus
        obtain ⟨hdigits, hvalue⟩ := int32?_plus.mp h
        exact hvalue ▸ .plus hdigits
      · obtain ⟨hdigits, hvalue⟩ := (int32?_unsigned hminus hplus).mp h
        exact hvalue ▸ .plain hdigits
  · intro h
    -- A text is told by its first character, and none that begins with a digit begins with a sign.
    generalize hvalue : n.toInt = value at h
    cases h with
    | plain hdigits =>
        have hsign : ∀ sign : Char, sign.isDigit = false → cs.head? ≠ some sign := by
          intro sign hsign hhead
          rw [hdigits.2 sign (List.mem_of_mem_head? hhead)] at hsign
          exact absurd hsign (by simp)
        exact (int32?_unsigned (hsign '-' rfl) (hsign '+' rfl)).mpr ⟨hdigits, hvalue.symm⟩
    | plus hdigits => exact int32?_plus.mpr ⟨hdigits, hvalue.symm⟩
    | minus hdigits => exact int32?_minus.mpr ⟨hdigits, hvalue.symm⟩

/-! ### Numbers of 64 bits -/

/-- A row of digits as a number of 64 bits, if it fits. -/
theorem fittingUnsigned_eq_some_iff {digits : List Char} {n : UInt64} :
    ((natural? digits).bind fun k => if k < 1 <<< 64 then some (UInt64.ofNat k) else none) =
        some n ↔ IsDigits digits ∧ digitsValue digits = n.toNat := by
  have hlt := n.toNat_lt
  constructor
  · intro h
    obtain ⟨k, hk, h⟩ := Option.bind_eq_some_iff.mp h
    obtain ⟨hdigits, rfl⟩ := natural?_eq_some_iff.mp hk
    split at h
    · rename_i hfits
      refine ⟨hdigits, ?_⟩
      rw [← Option.some.inj h, UInt64.toNat_ofNat']
      exact (Nat.mod_eq_of_lt hfits).symm
    · exact absurd h (by simp)
  · intro h
    rw [natural?_eq_some_iff.mpr h, Option.bind_some, if_pos (by omega), UInt64.ofNat_toNat]

/-- **A number of 64 bits** is read from its digits, behind a plus or none, and from no other text. -/
theorem uint64?_eq_some_iff {cs : List Char} {n : UInt64} :
    uint64? cs = some n ↔ ∃ digits, (cs = digits ∨ cs = '+' :: digits) ∧ IsDigits digits ∧
      digitsValue digits = n.toNat := by
  by_cases hplus : cs.head? = some '+'
  · obtain ⟨digits, rfl⟩ := List.head?_eq_some_iff.mp hplus
    show ((natural? digits).bind _) = _ ↔ _
    rw [fittingUnsigned_eq_some_iff]
    constructor
    · intro h
      exact ⟨digits, Or.inr rfl, h⟩
    · intro h
      obtain ⟨digits', rfl | heq, hdigits, hvalue⟩ := h
      · exact absurd (hdigits.2 '+' (by simp)) (by decide)
      · rw [(List.cons.inj heq).2]
        exact ⟨hdigits, hvalue⟩
  · have hunsigned : uint64? cs =
        (natural? cs).bind fun k => if k < 1 <<< 64 then some (UInt64.ofNat k) else none := by
      unfold uint64?
      split
      · exact absurd rfl hplus
      · rfl
    rw [hunsigned, fittingUnsigned_eq_some_iff]
    constructor
    · intro h
      exact ⟨cs, Or.inl rfl, h⟩
    · intro h
      obtain ⟨digits, rfl | rfl, hdigits⟩ := h
      · exact hdigits
      · exact absurd rfl hplus

end TelescopeLink.Text
