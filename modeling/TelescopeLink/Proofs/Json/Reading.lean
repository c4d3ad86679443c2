import Mathlib.Data.List.TakeWhile
import Mathlib.Tactic.SplitIfs
import TelescopeLink.Json.Value
import TelescopeLink.Proofs.Text.Decimal

/-!
# Texts and numbers survive as JSON

What is written between quotes is read up to the closing quote, whatever characters it has
(`readTextBody_escaped`): each way of escaping a character is undone by itself, so the text is
followed character by character. A whole number that 64 bits hold is read up to the first character
that could not go on in it (`readNumber_intDigits`). Items with commas between them are `separated`,
which also says what a reader has in front of it that has passed the first.
-/

namespace TelescopeLink.Json

open TelescopeLink.Text

/-! ### Texts -/

@[simp] theorem prepend_ok (c : Char) (cs rest : List Char) :
    prepend c (.ok (cs, rest)) = .ok (c :: cs, rest) := rfl

@[simp] theorem readTextBody_quote (rest : List Char) :
    readTextBody ('"' :: rest) = .ok ([], rest) := by
  rw [readTextBody.eq_def]
  rfl

/-- An escape by a letter. It is not the one by number, whose letter stands for no character. -/
theorem readTextBody_shortEscape {e c : Char} (h : shortEscape? e = some c) (rest : List Char) :
    readTextBody ('\\' :: e :: rest) = prepend c (readTextBody rest) := by
  have hunit : e ≠ 'u' := by
    rintro rfl
    simp [shortEscape?] at h
  rw [readTextBody.eq_def]
  simp [hunit, h]

/-- The escape of a character by its number, which is no half of a pair. -/
theorem readTextBody_unit {h₁ h₂ h₃ h₄ : Char} {unit : Nat}
    (h : hexDigitsValue? [h₁, h₂, h₃, h₄] = some unit) (hhigh : isHighSurrogate unit = false)
    (hlow : isLowSurrogate unit = false) (rest : List Char) :
    readTextBody ('\\' :: 'u' :: h₁ :: h₂ :: h₃ :: h₄ :: rest) =
      prepend (Char.ofNat unit) (readTextBody rest) := by
  rw [readTextBody.eq_def]
  simp [h, hhigh, hlow]

/-- What is neither a quote nor a backslash nor a control character stands for itself. -/
theorem readTextBody_of_plain {c : Char} (hquote : c ≠ '"') (hslash : c ≠ '\\')
    (hcontrol : ¬c.toNat < 0x20) (rest : List Char) :
    readTextBody (c :: rest) = prepend c (readTextBody rest) := by
  rw [readTextBody.eq_def]
  simp only [if_neg hquote, if_neg hslash, if_neg hcontrol]

/-- The four digits of a control character. -/
theorem hexDigitsValue?_of_control : ∀ n < 0x20,
    hexDigitsValue? ['0', '0', Nat.digitChar (n / 16), Nat.digitChar (n % 16)] = some n := by
  decide

/-- **A character is read back** from the way it is escaped, and the rest is left as it is. -/
theorem readTextBody_escapeChar (c : Char) (rest : List Char) :
    readTextBody (escapeChar c ++ rest) = prepend c (readTextBody rest) := by
  unfold escapeChar
  -- In the order in which the writer looks.
  split_ifs with hquote hslash hb ht hn hf hr hcontrol
  case pos => exact readTextBody_shortEscape (by rw [hquote]; rfl) rest
  case pos => exact readTextBody_shortEscape (by rw [hslash]; rfl) rest
  case pos => exact readTextBody_shortEscape (by rw [hb]; rfl) rest
  case pos => exact readTextBody_shortEscape (by rw [ht]; rfl) rest
  case pos => exact readTextBody_shortEscape (by rw [hn]; rfl) rest
  case pos => exact readTextBody_shortEscape (by rw [hf]; rfl) rest
  case pos => exact readTextBody_shortEscape (by rw [hr]; rfl) rest
  case pos =>
    have hhigh : isHighSurrogate c.toNat = false := by simp [isHighSurrogate]; omega
    have hlow : isLowSurrogate c.toNat = false := by simp [isLowSurrogate]; omega
    have hread := readTextBody_unit (hexDigitsValue?_of_control c.toNat hcontrol) hhigh hlow rest
    rwa [Char.ofNat_toNat] at hread
  case neg => exact readTextBody_of_plain hquote hslash hcontrol rest

/-- **A text is read back** from between its quotes, whatever stands behind them. -/
theorem readTextBody_escaped (cs rest : List Char) :
    readTextBody (cs.flatMap escapeChar ++ '"' :: rest) = .ok (cs, rest) := by
  induction cs with
  | nil => exact readTextBody_quote rest
  | cons c cs ih =>
    rw [List.flatMap_cons, List.append_assoc, readTextBody_escapeChar, ih, prepend_ok]

theorem quote_append (cs rest : List Char) :
    quote cs ++ rest = '"' :: (cs.flatMap escapeChar ++ '"' :: rest) := by
  simp [quote]

/-! ### Whole numbers -/

/-- A number that stands in front of this text ends there. -/
def EndsNumber (rest : List Char) : Prop :=
  ∀ c ∈ rest.head?, c.isDigit = false ∧ c ≠ '.' ∧ c ≠ 'e' ∧ c ≠ 'E'

theorem endsNumber_cons {c : Char} (h : c.isDigit = false ∧ c ≠ '.' ∧ c ≠ 'e' ∧ c ≠ 'E')
    {rest : List Char} : EndsNumber (c :: rest) := by
  intro d hd
  exact Option.some.inj hd ▸ h

theorem EndsNumber.isDigit {rest : List Char} (h : EndsNumber rest) :
    ∀ c ∈ rest.head?, c.isDigit = false := fun c hc => (h c hc).1

/-- More digits never make a number smaller. -/
theorem le_digitsValueFrom (value : Nat) (ds : List Char) : value ≤ digitsValueFrom value ds := by
  induction ds generalizing value with
  | nil => exact Nat.le_refl value
  | cons d ds ih =>
    have hnext := ih (10 * value + digitValue d)
    have hfold : digitsValueFrom value (d :: ds) =
        digitsValueFrom (10 * value + digitValue d) ds := rfl
    omega

/-- As long as 64 bits hold the number, no digit is left over. -/
theorem absorb_of_lt {value : Nat} {ds : List Char} (h : digitsValueFrom value ds < 1 <<< 64) :
    absorb value ds = (digitsValueFrom value ds, []) := by
  induction ds generalizing value with
  | nil => rfl
  | cons d ds ih =>
    have hfits : 10 * value + digitValue d < 1 <<< 64 :=
      Nat.lt_of_le_of_lt (le_digitsValueFrom _ ds) h
    rw [absorb, if_pos hfits, ih h]
    rfl

/-- Digits are told from what stands behind them. -/
theorem span_natDigits (n : Nat) {rest : List Char} (h : EndsNumber rest) :
    (natDigits n ++ rest).takeWhile Char.isDigit = natDigits n ∧
      (natDigits n ++ rest).dropWhile Char.isDigit = rest := by
  have hdigits : ∀ c ∈ natDigits n, c.isDigit = true := fun _ => isDigit_of_mem_natDigits
  rw [List.takeWhile_append_of_pos hdigits, List.dropWhile_append_of_pos hdigits]
  match rest with
  | [] => simp
  | c :: rest =>
    have hc := h.isDigit c rfl
    simp [hc]

/-- Digits of a number that 64 bits hold are read to their end, and none of them is rounded away. -/
theorem readUnsigned_natDigits (negative : Bool) {n : Nat} (hn : n < 1 <<< 64) {rest : List Char}
    (h : EndsNumber rest) :
    readUnsigned negative (natDigits n ++ rest) = readScale negative n 0 rest := by
  -- A zero in front may not be followed by digits, and only the number zero is written with one.
  rcases natDigits_cases n with hzero | ⟨d, ds, hds, hdigit, hd⟩
  · have hn : n = 0 := by
      have hvalue := digitsValue_natDigits n
      rw [hzero] at hvalue
      exact hvalue.symm
    subst hn
    rw [hzero, List.singleton_append, readUnsigned.eq_def]
    match rest with
    | [] => rfl
    | c :: rest =>
      have hc := h.isDigit c rfl
      simp [hc]
  · obtain ⟨htake, hdrop⟩ := span_natDigits n h
    have hvalue : digitsValueFrom 0 (natDigits n) = n := digitsValue_natDigits n
    have habsorb : absorb 0 (natDigits n) = (n, []) := by
      rw [absorb_of_lt (by rwa [hvalue]), hvalue]
    rw [hds, List.cons_append] at htake hdrop ⊢
    rw [← hds] at htake
    rw [readUnsigned.eq_def]
    simp only [if_neg hd, if_pos hdigit, htake, hdrop, habsorb, List.length_nil]

/-- With neither point nor exponent behind them, digits are a whole number. -/
theorem readScale_of_endsNumber (n : Nat) {rest : List Char} (h : EndsNumber rest) :
    readScale false n 0 rest = .ok (.whole n, rest) := by
  rw [readScale.eq_def]
  match rest with
  | [] => rfl
  | c :: rest =>
    obtain ⟨-, hpoint, he, hE⟩ := h c rfl
    split
    · rename_i heq
      exact absurd (List.cons.inj heq).1 hpoint
    · simp [he, hE]

/-- So they are behind a minus, unless they are zero or too large for a sign. -/
theorem readScale_minus {n : Nat} (hpos : 0 < n) (hbound : n ≤ 1 <<< 63) {rest : List Char}
    (h : EndsNumber rest) : readScale true n 0 rest = .ok (.whole (-(n : Int)), rest) := by
  have hwhole : ¬(n = 0 ∨ 1 <<< 63 < n) := by omega
  rw [readScale.eq_def]
  match rest with
  | [] => simp only [if_true, if_neg hwhole]
  | c :: rest =>
    obtain ⟨-, hpoint, he, hE⟩ := h c rfl
    split
    · rename_i heq
      exact absurd (List.cons.inj heq).1 hpoint
    · simp only [he, hE, or_self, if_true, if_false, if_neg hwhole]

/-- A number that begins with a digit has no sign. -/
theorem readNumber_of_isDigit {d : Char} (h : d.isDigit = true) (cs : List Char) :
    readNumber (d :: cs) = readUnsigned false (d :: cs) := by
  have hminus : d ≠ '-' := by rintro rfl; exact absurd h (by decide)
  rw [readNumber.eq_def]
  split
  · rename_i heq
    exact absurd (List.cons.inj heq).1 hminus
  · rfl

/-- **A whole number is read back** if 64 bits hold it, up to where it ends. -/
theorem readNumber_intDigits {n : Int} (hlow : -(1 <<< 63 : Nat) ≤ n) (hhigh : n < (1 <<< 64 : Nat))
    {rest : List Char} (h : EndsNumber rest) :
    readNumber (intDigits n ++ rest) = .ok (.whole n, rest) := by
  have hfits : n.natAbs < 1 <<< 64 := by omega
  rw [intDigits]
  split_ifs with hsign
  · have hbounds : 0 < n.natAbs ∧ n.natAbs ≤ 1 <<< 63 := by omega
    have hvalue : -(n.natAbs : Int) = n := by omega
    rw [List.cons_append]
    show readUnsigned true (natDigits n.natAbs ++ rest) = _
    rw [readUnsigned_natDigits true hfits h, readScale_minus hbounds.1 hbounds.2 h, hvalue]
  · have hvalue : (n.natAbs : Int) = n := by omega
    have hread : readNumber (natDigits n.natAbs ++ rest) =
        readUnsigned false (natDigits n.natAbs ++ rest) := by
      obtain ⟨d, ds, hds⟩ := List.exists_cons_of_ne_nil (natDigits_ne_nil n.natAbs)
      have hd : d.isDigit = true := isDigit_of_mem_natDigits (hds ▸ List.mem_cons_self)
      rw [hds, List.cons_append, readNumber_of_isDigit hd]
    rw [hread, readUnsigned_natDigits false hfits h, readScale_of_endsNumber n.natAbs h, hvalue]

/-! ### Items with commas between them -/

theorem skipSpaces_cons {c : Char} (h : isSpace c = false) (cs : List Char) :
    skipSpaces (c :: cs) = c :: cs := by
  rw [skipSpaces, List.dropWhile_cons_of_neg (by simp [h])]

/-- The texts of items, each behind a comma but for one that is the first of all. -/
def separated : (isFirst : Bool) → List (List Char) → List Char
  | _, [] => []
  | isFirst, item :: more => (if isFirst then item else ',' :: item) ++ separated false more

/-- So are items written: the first without a comma, all others with one. -/
theorem commas_eq_separated (items : List (List Char)) : commas items = separated true items := by
  induction items using commas.induct with
  | case1 => rfl
  | case2 item => simp [commas, separated]
  | case3 item next more ih =>
    rw [commas, ih]
    simp [separated]

/-- No item takes less than its comma, and only the first has none. -/
theorem length_le_separated (isFirst : Bool) (items : List (List Char)) :
    items.length ≤ (separated isFirst items).length + 1 := by
  have hbehind : items.length ≤ (separated false items).length := by
    induction items with
    | nil => exact Nat.le_refl 0
    | cons item more ih =>
      simp only [separated, Bool.false_eq_true, if_false, List.length_append, List.length_cons]
      omega
  cases isFirst with
  | false => omega
  | true =>
    cases items with
    | nil => exact Nat.zero_le 1
    | cons item more =>
      simp only [separated, Bool.false_eq_true, if_false, if_true, List.length_append,
        List.length_cons] at hbehind ⊢
      omega

/-- Behind a member stands a comma or the brace. -/
theorem endsNumber_separated (members : List (List Char)) (rest : List Char) :
    EndsNumber (separated false members ++ '\x7d' :: rest) := by
  cases members with
  | nil => exact endsNumber_cons (by decide)
  | cons member more => exact endsNumber_cons (by decide)

theorem nextItem_quoted (isFirst : Bool) (body rest : List Char) :
    nextItem isFirst ((if isFirst then '"' :: body else ',' :: '"' :: body) ++ rest) =
      .ok (true, '"' :: (body ++ rest)) := by
  cases isFirst <;> rfl

theorem nextItem_bracket (isFirst : Bool) (rest : List Char) :
    nextItem isFirst (']' :: rest) = .ok (false, ']' :: rest) := rfl

theorem nextName_quoted (isFirst : Bool) (body rest : List Char) :
    nextName isFirst ((if isFirst then '"' :: body else ',' :: '"' :: body) ++ rest) =
      .ok (true, body ++ rest) := by
  cases isFirst <;> rfl

theorem nextName_brace (isFirst : Bool) (rest : List Char) :
    nextName isFirst ('\x7d' :: rest) = .ok (false, '\x7d' :: rest) := rfl

end TelescopeLink.Json
