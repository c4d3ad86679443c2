import Mathlib.Data.List.TakeWhile
import TelescopeLink.Text.Utf8

/-!
# Texts survive as bytes

Reading gives back every text that was written (`decode_encode`): the first byte of a character
tells its length, and the six bits of each later byte are its own. And a byte is zero only for the
character NUL, so a reader that stops at the first zero byte has read the text up to its first NUL
(`takeWhile_encode`) — all of it, if there is none.

Of bytes that nobody wrote as a text, reading makes one character after the other as well, and each
of them either stands there, byte for byte, or is a replacement (`decode_induction`). So reading makes
up nothing (`mem_of_mem_decode`).

The bytes of a text are those in which the language itself keeps it (`toByteArray_encode`), so what
is said here is said about UTF-8 and not about this reader and writer only.
-/

namespace TelescopeLink.Text

/-! ### Bytes -/

theorem toNat_toUInt8 {n : Nat} (h : n < 0x100) : n.toUInt8.toNat = n := by
  rw [UInt8.toNat_ofNat']
  exact Nat.mod_eq_of_lt h

/-- A byte holds what is left of a number beyond its multiples of 256. -/
theorem toUInt8_eq {n : Nat} {b : UInt8} (h : n % 0x100 = b.toNat) : n.toUInt8 = b := by
  rw [← UInt8.toNat_inj, ← h]
  exact UInt8.toNat_ofNat'

section LeadLength

variable {a : UInt8}

theorem leadLength_eq_one (h : a.toNat < 0x80) : leadLength a = some 1 := by
  have hlt : a < 0x80 := UInt8.lt_iff_toNat_lt.mpr h
  rw [leadLength, if_pos hlt]

theorem leadLength_eq_two (hlow : 0xC2 ≤ a.toNat) (hhigh : a.toNat ≤ 0xDF) :
    leadLength a = some 2 := by
  have hone : ¬a < 0x80 := by simp [UInt8.lt_iff_toNat_lt]; omega
  have htwo : (0xC2 ≤ a && a ≤ 0xDF) = true := by simp [UInt8.le_iff_toNat_le, hlow, hhigh]
  rw [leadLength, if_neg hone, if_pos htwo]

theorem leadLength_eq_three (hlow : 0xE0 ≤ a.toNat) (hhigh : a.toNat ≤ 0xEF) :
    leadLength a = some 3 := by
  have hone : ¬a < 0x80 := by simp [UInt8.lt_iff_toNat_lt]; omega
  have htwo : ¬(0xC2 ≤ a && a ≤ 0xDF) = true := by simp [UInt8.le_iff_toNat_le]; omega
  have hthree : (0xE0 ≤ a && a ≤ 0xEF) = true := by simp [UInt8.le_iff_toNat_le, hlow, hhigh]
  rw [leadLength, if_neg hone, if_neg htwo, if_pos hthree]

theorem leadLength_eq_four (hlow : 0xF0 ≤ a.toNat) (hhigh : a.toNat ≤ 0xF4) :
    leadLength a = some 4 := by
  have hone : ¬a < 0x80 := by simp [UInt8.lt_iff_toNat_lt]; omega
  have htwo : ¬(0xC2 ≤ a && a ≤ 0xDF) = true := by simp [UInt8.le_iff_toNat_le]; omega
  have hthree : ¬(0xE0 ≤ a && a ≤ 0xEF) = true := by simp [UInt8.le_iff_toNat_le]; omega
  have hfour : (0xF0 ≤ a && a ≤ 0xF4) = true := by simp [UInt8.le_iff_toNat_le, hlow, hhigh]
  rw [leadLength, if_neg hone, if_neg htwo, if_neg hthree, if_pos hfour]

/-- The first bytes, by the lengths that they tell. -/
theorem leadLength_eq_some {length : Nat} (h : leadLength a = some length) :
    length = 1 ∧ a.toNat < 0x80 ∨ length = 2 ∧ 0xC2 ≤ a.toNat ∧ a.toNat ≤ 0xDF ∨
      length = 3 ∧ 0xE0 ≤ a.toNat ∧ a.toNat ≤ 0xEF ∨
      length = 4 ∧ 0xF0 ≤ a.toNat ∧ a.toNat ≤ 0xF4 := by
  simp only [leadLength, UInt8.lt_iff_toNat_lt, UInt8.le_iff_toNat_le, Bool.and_eq_true,
    decide_eq_true_eq, UInt8.reduceToNat] at h
  split_ifs at h <;> simp_all

end LeadLength

theorem isContinuation_of_le {b : UInt8} (hlow : 0x80 ≤ b.toNat) (hhigh : b.toNat ≤ 0xBF) :
    isContinuation b = true := by
  have hlow' : 0x80 ≤ b := UInt8.le_iff_toNat_le.mpr hlow
  have hhigh' : b ≤ 0xBF := UInt8.le_iff_toNat_le.mpr hhigh
  simp [isContinuation, hlow', hhigh']

theorem bounds_of_isContinuation {b : UInt8} (h : isContinuation b = true) :
    0x80 ≤ b.toNat ∧ b.toNat ≤ 0xBF := by
  simpa [isContinuation, UInt8.le_iff_toNat_le] using h

/-- A continuation byte may stand second, but for the bounds that some first bytes set. -/
theorem follows_of_le {lead b : UInt8} (hlow : 0x80 ≤ b.toNat) (hhigh : b.toNat ≤ 0xBF)
    (hE0 : lead.toNat = 0xE0 → 0xA0 ≤ b.toNat) (hF0 : lead.toNat = 0xF0 → 0x90 ≤ b.toNat)
    (hED : lead.toNat = 0xED → b.toNat ≤ 0x9F) (hF4 : lead.toNat = 0xF4 → b.toNat ≤ 0x8F) :
    follows lead b = true := by
  simp only [follows, ← UInt8.toNat_inj, UInt8.le_iff_toNat_le, Bool.and_eq_true, decide_eq_true_eq]
  constructor
  · split
    · exact hE0 ‹_›
    · split
      · exact hF0 ‹_›
      · exact hlow
  · split
    · exact hED ‹_›
    · split
      · exact hF4 ‹_›
      · exact hhigh

/-- What stands second is a continuation byte within these bounds. -/
theorem bounds_of_follows {lead b : UInt8} (h : follows lead b = true) :
    (0x80 ≤ b.toNat ∧ b.toNat ≤ 0xBF) ∧ (lead.toNat = 0xE0 → 0xA0 ≤ b.toNat) ∧
      (lead.toNat = 0xF0 → 0x90 ≤ b.toNat) ∧ (lead.toNat = 0xED → b.toNat ≤ 0x9F) ∧
      (lead.toNat = 0xF4 → b.toNat ≤ 0x8F) := by
  simp only [follows, ← UInt8.toNat_inj, UInt8.le_iff_toNat_le, Bool.and_eq_true, decide_eq_true_eq,
    apply_ite UInt8.toNat, UInt8.reduceToNat] at h
  obtain ⟨hlow, hhigh⟩ := h
  split_ifs at hlow hhigh <;> omega

/-! ### One character -/

section Decode

variable {a b c d : UInt8} (rest : List UInt8)

theorem decode_one (ha : leadLength a = some 1) :
    decode (a :: rest) = Char.ofNat a.toNat :: decode rest := by
  rw [decode.eq_def]
  dsimp only
  rw [ha]
  rfl

theorem decode_two (ha : leadLength a = some 2) (hb : follows a b = true) :
    decode (a :: b :: rest) = Char.ofNat (a.toNat % 0x20 * 0x40 + payload b) :: decode rest := by
  rw [decode.eq_def]
  dsimp only
  rw [ha]
  exact if_pos hb

theorem decode_three (ha : leadLength a = some 3) (hb : follows a b = true)
    (hc : isContinuation c = true) :
    decode (a :: b :: c :: rest) =
      Char.ofNat (a.toNat % 0x10 * 0x1000 + payload b * 0x40 + payload c) :: decode rest := by
  rw [decode.eq_def]
  dsimp only
  rw [ha]
  exact (if_pos hb).trans (if_pos hc)

theorem decode_four (ha : leadLength a = some 4) (hb : follows a b = true)
    (hc : isContinuation c = true) (hd : isContinuation d = true) :
    decode (a :: b :: c :: d :: rest) =
      Char.ofNat (a.toNat % 0x08 * 0x40000 + payload b * 0x1000 + payload c * 0x40 + payload d) ::
        decode rest := by
  rw [decode.eq_def]
  dsimp only
  rw [ha]
  exact ((if_pos hb).trans (if_pos hc)).trans (if_pos hd)

end Decode

/-- The bytes that spell a character, by how many they are. -/
inductive WellFormed : List UInt8 → Char → Prop
  | one {a : UInt8} (ha : leadLength a = some 1) : WellFormed [a] (Char.ofNat a.toNat)
  | two {a b : UInt8} (ha : leadLength a = some 2) (hb : follows a b = true) :
      WellFormed [a, b] (Char.ofNat (a.toNat % 0x20 * 0x40 + payload b))
  | three {a b c : UInt8} (ha : leadLength a = some 3) (hb : follows a b = true)
      (hc : isContinuation c = true) :
      WellFormed [a, b, c]
        (Char.ofNat (a.toNat % 0x10 * 0x1000 + payload b * 0x40 + payload c))
  | four {a b c d : UInt8} (ha : leadLength a = some 4) (hb : follows a b = true)
      (hc : isContinuation c = true) (hd : isContinuation d = true) :
      WellFormed [a, b, c, d]
        (Char.ofNat (a.toNat % 0x08 * 0x40000 + payload b * 0x1000 + payload c * 0x40 + payload d))

/-- The bytes of a character spell it. -/
theorem wellFormed_encodeChar (c : Char) : WellFormed (encodeChar c) c := by
  have hvalid : c.toNat < 0xD800 ∨ 0xDFFF < c.toNat ∧ c.toNat < 0x110000 := c.valid
  have hchar : ∀ n, n = c.toNat → Char.ofNat n = c := by
    rintro n rfl
    exact Char.ofNat_toNat c
  -- By the number of bytes: the pieces of the code, put together, give the code again.
  unfold encodeChar
  dsimp only
  generalize c.toNat = n at hvalid hchar
  split
  · have ha : n.toUInt8.toNat = n := toNat_toUInt8 (by omega)
    have hone := WellFormed.one (leadLength_eq_one (a := n.toUInt8) (by omega))
    rwa [hchar _ ha] at hone
  · split
    · have ha : (0xC0 + n / 0x40).toUInt8.toNat = 0xC0 + n / 0x40 := toNat_toUInt8 (by omega)
      have hb : (0x80 + n % 0x40).toUInt8.toNat = 0x80 + n % 0x40 := toNat_toUInt8 (by omega)
      have htwo := WellFormed.two (a := (0xC0 + n / 0x40).toUInt8) (b := (0x80 + n % 0x40).toUInt8)
        (leadLength_eq_two (by omega) (by omega))
        (follows_of_le (by omega) (by omega) (by omega) (by omega) (by omega) (by omega))
      rwa [hchar _ (by rw [payload, ha, hb]; omega)] at htwo
    · split
      · have ha : (0xE0 + n / 0x1000).toUInt8.toNat = 0xE0 + n / 0x1000 := toNat_toUInt8 (by omega)
        have hb : (0x80 + n / 0x40 % 0x40).toUInt8.toNat = 0x80 + n / 0x40 % 0x40 :=
          toNat_toUInt8 (by omega)
        have hc : (0x80 + n % 0x40).toUInt8.toNat = 0x80 + n % 0x40 := toNat_toUInt8 (by omega)
        -- The bounds on the second byte are met, as the code is neither short nor a surrogate.
        have hthree := WellFormed.three (a := (0xE0 + n / 0x1000).toUInt8)
          (b := (0x80 + n / 0x40 % 0x40).toUInt8) (c := (0x80 + n % 0x40).toUInt8)
          (leadLength_eq_three (by omega) (by omega))
          (follows_of_le (by omega) (by omega) (by omega) (by omega) (by omega) (by omega))
          (isContinuation_of_le (by omega) (by omega))
        rwa [hchar _ (by rw [payload, payload, ha, hb, hc]; omega)] at hthree
      · have ha : (0xF0 + n / 0x40000).toUInt8.toNat = 0xF0 + n / 0x40000 :=
          toNat_toUInt8 (by omega)
        have hb : (0x80 + n / 0x1000 % 0x40).toUInt8.toNat = 0x80 + n / 0x1000 % 0x40 :=
          toNat_toUInt8 (by omega)
        have hc : (0x80 + n / 0x40 % 0x40).toUInt8.toNat = 0x80 + n / 0x40 % 0x40 :=
          toNat_toUInt8 (by omega)
        have hd : (0x80 + n % 0x40).toUInt8.toNat = 0x80 + n % 0x40 := toNat_toUInt8 (by omega)
        have hfour := WellFormed.four (a := (0xF0 + n / 0x40000).toUInt8)
          (b := (0x80 + n / 0x1000 % 0x40).toUInt8) (c := (0x80 + n / 0x40 % 0x40).toUInt8)
          (d := (0x80 + n % 0x40).toUInt8) (leadLength_eq_four (by omega) (by omega))
          (follows_of_le (by omega) (by omega) (by omega) (by omega) (by omega) (by omega))
          (isContinuation_of_le (by omega) (by omega))
          (isContinuation_of_le (by omega) (by omega))
        rwa [hchar _ (by rw [payload, payload, payload, ha, hb, hc, hd]; omega)] at hfour

/-- Bytes that spell a character are read as that one, whatever follows them. -/
theorem WellFormed.decode_append {bytes : List UInt8} {c : Char} (h : WellFormed bytes c)
    (rest : List UInt8) : decode (bytes ++ rest) = c :: decode rest := by
  cases h with
  | one ha => exact decode_one rest ha
  | two ha hb => exact decode_two rest ha hb
  | three ha hb hc => exact decode_three rest ha hb hc
  | four ha hb hc hd => exact decode_four rest ha hb hc hd

/-- **A character** is read back from its bytes, whatever follows it. -/
theorem decode_encodeChar_append (c : Char) (rest : List UInt8) :
    decode (encodeChar c ++ rest) = c :: decode rest :=
  (wellFormed_encodeChar c).decode_append rest

/-! ### Bytes that nobody wrote -/

/-- A character is known by its code. -/
theorem toNat_ofNat {n : Nat} (h : n.isValidChar) : (Char.ofNat n).toNat = n := by
  rw [Char.ofNat, dif_pos h]
  rfl

section EncodeChar

variable {a b c d : UInt8}

theorem encodeChar_one (ha : leadLength a = some 1) : encodeChar (Char.ofNat a.toNat) = [a] := by
  have hlead := leadLength_eq_some ha
  unfold encodeChar
  dsimp only
  rw [toNat_ofNat (Or.inl (by omega)), if_pos (by omega), toUInt8_eq (b := a) (by omega)]

theorem encodeChar_two (ha : leadLength a = some 2) (hb : follows a b = true) :
    encodeChar (Char.ofNat (a.toNat % 0x20 * 0x40 + payload b)) = [a, b] := by
  have hlead := leadLength_eq_some ha
  have hsecond := bounds_of_follows hb
  unfold encodeChar payload
  dsimp only
  rw [toNat_ofNat (Or.inl (by omega)), if_neg (by omega), if_pos (by omega),
    toUInt8_eq (b := a) (by omega), toUInt8_eq (b := b) (by omega)]

theorem encodeChar_three (ha : leadLength a = some 3) (hb : follows a b = true)
    (hc : isContinuation c = true) :
    encodeChar (Char.ofNat (a.toNat % 0x10 * 0x1000 + payload b * 0x40 + payload c)) =
      [a, b, c] := by
  have hlead := leadLength_eq_some ha
  have hsecond := bounds_of_follows hb
  have hthird := bounds_of_isContinuation hc
  unfold encodeChar payload
  dsimp only
  -- The bounds on the second byte keep the code from being short or a surrogate.
  rw [toNat_ofNat (by unfold Nat.isValidChar; omega), if_neg (by omega), if_neg (by omega),
    if_pos (by omega), toUInt8_eq (b := a) (by omega), toUInt8_eq (b := b) (by omega),
    toUInt8_eq (b := c) (by omega)]

theorem encodeChar_four (ha : leadLength a = some 4) (hb : follows a b = true)
    (hc : isContinuation c = true) (hd : isContinuation d = true) :
    encodeChar (Char.ofNat (a.toNat % 0x08 * 0x40000 + payload b * 0x1000 + payload c * 0x40 +
      payload d)) = [a, b, c, d] := by
  have hlead := leadLength_eq_some ha
  have hsecond := bounds_of_follows hb
  have hthird := bounds_of_isContinuation hc
  have hfourth := bounds_of_isContinuation hd
  unfold encodeChar payload
  dsimp only
  rw [toNat_ofNat (by unfold Nat.isValidChar; omega), if_neg (by omega), if_neg (by omega),
    if_neg (by omega), toUInt8_eq (b := a) (by omega), toUInt8_eq (b := b) (by omega),
    toUInt8_eq (b := c) (by omega), toUInt8_eq (b := d) (by omega)]

end EncodeChar

/-- **Induction on reading**, for what is to hold of bytes and the characters read from them. Each step
reads a character that stands there, or replaces bytes that spell none. -/
theorem decode_induction {motive : List UInt8 → List Char → Prop} (nil : motive [] [])
    (read : ∀ c rest, motive rest (decode rest) → motive (encodeChar c ++ rest) (c :: decode rest))
    (replace : ∀ lost rest, lost ≠ [] → motive rest (decode rest) →
      motive (lost ++ rest) (replacement :: decode rest))
    (bytes : List UInt8) : motive bytes (decode bytes) := by
  have hread : ∀ {c : Char} {bytes rest : List UInt8}, encodeChar c = bytes →
      motive rest (decode rest) → motive (bytes ++ rest) (c :: decode rest) := by
    rintro c bytes rest rfl ih
    exact read c rest ih
  -- One case for each length spells a character, and in all others something is lost.
  fun_induction decode bytes with
  | case1 => exact nil
  | case2 a rest ha ih => exact hread (encodeChar_one ha) ih
  | case3 a ha b rest hb ih => exact hread (encodeChar_two ha hb) ih
  | case4 a _ b rest _ ih => exact replace [a] (b :: rest) (by simp) ih
  | case5 a => exact replace [a] [] (by simp) nil
  | case6 a ha b hb c rest hc ih => exact hread (encodeChar_three ha hb hc) ih
  | case7 a _ b _ c rest _ ih => exact replace [a, b] (c :: rest) (by simp) ih
  | case8 a _ b => exact replace [a, b] [] (by simp) nil
  | case9 a _ b rest _ ih => exact replace [a] (b :: rest) (by simp) ih
  | case10 a => exact replace [a] [] (by simp) nil
  | case11 a ha b hb c hc d rest hd ih => exact hread (encodeChar_four ha hb hc hd) ih
  | case12 a _ b _ c _ d rest _ ih => exact replace [a, b, c] (d :: rest) (by simp) ih
  | case13 a _ b _ c => exact replace [a, b, c] [] (by simp) nil
  | case14 a _ b _ c rest _ ih => exact replace [a, b] (c :: rest) (by simp) ih
  | case15 a _ b => exact replace [a, b] [] (by simp) nil
  | case16 a _ b rest _ ih => exact replace [a] (b :: rest) (by simp) ih
  | case17 a => exact replace [a] [] (by simp) nil
  | case18 a rest _ _ _ _ ih => exact replace [a] rest (by simp) ih

/-- **Reading makes up nothing**: a character that is read stands there, unless it is a
replacement. -/
theorem mem_of_mem_decode {c : Char} {bytes : List UInt8} (h : c ∈ decode bytes) :
    c = replacement ∨ encodeChar c <:+: bytes := by
  refine decode_induction
    (motive := fun bytes cs => c ∈ cs → c = replacement ∨ encodeChar c <:+: bytes) ?_ ?_ ?_ bytes h
  · simp
  · intro d rest ih hmem
    rcases List.mem_cons.mp hmem with rfl | hrest
    · exact Or.inr (List.prefix_append _ rest).isInfix
    · exact (ih hrest).imp_right fun hinfix => hinfix.trans (List.suffix_append _ rest).isInfix
  · intro lost rest _ ih hmem
    rcases List.mem_cons.mp hmem with rfl | hrest
    · exact Or.inl rfl
    · exact (ih hrest).imp_right fun hinfix => hinfix.trans (List.suffix_append _ rest).isInfix

/-! ### Texts -/

/-- A text is read back from its bytes, whatever follows it. -/
theorem decode_encode_append (cs : List Char) (rest : List UInt8) :
    decode (encode cs ++ rest) = cs ++ decode rest := by
  induction cs with
  | nil => rfl
  | cons c cs ih =>
      rw [encode_cons, List.append_assoc, decode_encodeChar_append, ih]
      rfl

/-- **What was written is read.** -/
@[simp] theorem decode_encode (cs : List Char) : decode (encode cs) = cs := by
  have h := decode_encode_append cs []
  rw [List.append_nil] at h
  exact h.trans (List.append_nil cs)

/-- A byte is zero for NUL only. -/
theorem zero_mem_encodeChar_iff {c : Char} : 0 ∈ encodeChar c ↔ c = '\x00' := by
  constructor
  · intro h
    have hzero : ∀ {n : Nat}, n < 0x100 → 0 = n.toUInt8 → n = 0 := by
      intro n hn heq
      have htoNat := congrArg UInt8.toNat heq
      rw [toNat_toUInt8 hn] at htoNat
      exact htoNat.symm
    have hvalid : c.toNat < 0xD800 ∨ 0xDFFF < c.toNat ∧ c.toNat < 0x110000 := c.valid
    have hcode : c.toNat = 0 := by
      unfold encodeChar at h
      dsimp only at h
      generalize c.toNat = n at h hvalid ⊢
      split at h
      · exact hzero (by omega) (List.mem_singleton.mp h)
      · -- The bytes of a longer character carry marks, so none of them is zero.
        split at h
        · simp only [List.mem_cons, List.not_mem_nil, or_false] at h
          rcases h with h | h <;> have hn := hzero (by omega) h <;> omega
        · split at h
          · simp only [List.mem_cons, List.not_mem_nil, or_false] at h
            rcases h with h | h | h <;> have hn := hzero (by omega) h <;> omega
          · simp only [List.mem_cons, List.not_mem_nil, or_false] at h
            rcases h with h | h | h | h <;> have hn := hzero (by omega) h <;> omega
    rw [← Char.ofNat_toNat c, hcode]
  · rintro rfl
    decide

/-- So a text has a zero byte where it has a NUL. -/
theorem zero_mem_encode_iff {cs : List Char} : 0 ∈ encode cs ↔ '\x00' ∈ cs := by
  simp [encode, zero_mem_encodeChar_iff]

/-- **The bytes up to the first zero** are those of the text up to its first NUL. -/
theorem takeWhile_encode (cs : List Char) :
    (encode cs ++ [0]).takeWhile (· ≠ 0) = encode (cs.takeWhile (· ≠ '\x00')) := by
  induction cs with
  | nil => rfl
  | cons c cs ih =>
      by_cases hc : c = '\x00'
      · subst hc
        rfl
      · have hbytes : ∀ b ∈ encodeChar c, decide (b ≠ 0) = true := by
          intro b hb
          rw [decide_eq_true_eq]
          rintro rfl
          exact hc (zero_mem_encodeChar_iff.mp hb)
        rw [List.takeWhile_cons_of_pos (by simpa using hc), encode_cons, encode_cons,
          List.append_assoc, List.takeWhile_append_of_pos hbytes, ih]

/-- NUL is read from a zero byte only. -/
theorem zero_mem_of_nul_mem_decode {bytes : List UInt8} (h : '\x00' ∈ decode bytes) :
    0 ∈ bytes := by
  rcases mem_of_mem_decode h with hreplacement | hinfix
  · exact absurd hreplacement (by decide)
  · exact hinfix.subset (zero_mem_encodeChar_iff.mpr rfl)

/-! ### The bytes of the language's own strings -/

/-- Both ways of writing a character take it apart into the same bytes. -/
theorem encodeChar_eq (c : Char) : encodeChar c = String.utf8EncodeChar c := by
  have hvalid : c.val.toNat < 0xD800 ∨ 0xDFFF < c.val.toNat ∧ c.val.toNat < 0x110000 := c.valid
  unfold encodeChar String.utf8EncodeChar Char.toNat
  dsimp only
  generalize c.val.toNat = n at hvalid
  by_cases hone : n < 0x80
  · have hone' : n ≤ 0x7F := by omega
    rw [if_pos hone, if_pos hone']
  · have hone' : ¬n ≤ 0x7F := by omega
    rw [if_neg hone, if_neg hone', Nat.add_comm (n % 0x40)]
    by_cases htwo : n < 0x800
    · have htwo' : n ≤ 0x7FF := by omega
      rw [if_pos htwo, if_pos htwo', show n / 0x40 % 0x20 + 0xC0 = 0xC0 + n / 0x40 by omega]
    · have htwo' : ¬n ≤ 0x7FF := by omega
      rw [if_neg htwo, if_neg htwo', Nat.add_comm (n / 0x40 % 0x40)]
      by_cases hthree : n < 0x10000
      · have hthree' : n ≤ 0xFFFF := by omega
        rw [if_pos hthree, if_pos hthree',
          show n / 0x1000 % 0x10 + 0xE0 = 0xE0 + n / 0x1000 by omega]
      · have hthree' : ¬n ≤ 0xFFFF := by omega
        rw [if_neg hthree, if_neg hthree', Nat.add_comm (n / 0x1000 % 0x40),
          show n / 0x40000 % 0x08 + 0xF0 = 0xF0 + n / 0x40000 by omega]

/-- **The bytes of a text** are those in which the language keeps it. -/
theorem toByteArray_encode (cs : List Char) : (encode cs).toByteArray = cs.utf8Encode := by
  rw [encode, List.utf8Encode, funext encodeChar_eq]

/-- Valid UTF-8 is what is written for some text. -/
theorem isValidUTF8_iff {bytes : List UInt8} :
    bytes.toByteArray.IsValidUTF8 ↔ ∃ cs, encode cs = bytes := by
  constructor
  · rintro ⟨cs, hcs⟩
    refine ⟨cs, ?_⟩
    rw [← toByteArray_encode] at hcs
    simpa using (congrArg (·.data.toList) hcs).symm
  · rintro ⟨cs, rfl⟩
    exact ⟨cs, toByteArray_encode cs⟩

/-- A text has as many bytes as the language counts. -/
theorem byteLength_toList (text : String) : byteLength text.toList = text.utf8ByteSize := by
  rw [String.utf8ByteSize, ← String.ofList_toList (s := text), String.toByteArray_ofList,
    ← toByteArray_encode, String.toList_ofList, List.size_toByteArray]
  rfl

end TelescopeLink.Text
