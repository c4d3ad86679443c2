import TelescopeLink.Proofs.Text.Utf8

/-!
# Texts cut off anywhere

The first bytes of a text spell the characters that lie among them whole. The cut may fall inside the
next character, and then what is left of it is read as one replacement, however many bytes it has
(`decode_take_of_wellFormed`): no byte of it begins another character.

`exists_cut` finds the character at which a text is cut, and `decode_take_encode` reads what is left.
-/

namespace TelescopeLink.Text

/-! ### One character -/

section Cut

variable {a b c : UInt8} {length : Nat}

/-- The first byte of a longer character, and nothing behind it. -/
theorem decode_first (ha : leadLength a = some length) (hlength : 1 < length) :
    decode [a] = [replacement] := by
  rw [decode.eq_def]
  dsimp only
  rw [ha]
  rcases leadLength_eq_some ha with h | h | h | h <;> obtain ⟨rfl, -⟩ := h
  · exact absurd hlength (by decide)
  · rfl
  · rfl
  · rfl

/-- Two bytes of at least three. -/
theorem decode_first_two (ha : leadLength a = some length) (hlength : 2 < length)
    (hb : follows a b = true) : decode [a, b] = [replacement] := by
  rw [decode.eq_def]
  dsimp only
  rw [ha]
  rcases leadLength_eq_some ha with h | h | h | h <;> obtain ⟨rfl, -⟩ := h
  · exact absurd hlength (by decide)
  · exact absurd hlength (by decide)
  · exact if_pos hb
  · exact if_pos hb

/-- Three bytes of four. -/
theorem decode_first_three (ha : leadLength a = some 4) (hb : follows a b = true)
    (hc : isContinuation c = true) : decode [a, b, c] = [replacement] := by
  rw [decode.eq_def]
  dsimp only
  rw [ha]
  exact (if_pos hb).trans (if_pos hc)

end Cut

/-- **A character that is cut off** leaves one replacement behind. -/
theorem WellFormed.decode_take {bytes : List UInt8} {c : Char} (h : WellFormed bytes c) {count : Nat}
    (hpos : 0 < count) (hlt : count < bytes.length) :
    decode (bytes.take count) = [replacement] := by
  cases h with
  | one ha =>
      simp only [List.length_cons, List.length_nil] at hlt
      omega
  | two ha hb =>
      obtain rfl : count = 1 := by
        simp only [List.length_cons, List.length_nil] at hlt
        omega
      exact decode_first ha (by decide)
  | three ha hb hc =>
      obtain rfl | rfl : count = 1 ∨ count = 2 := by
        simp only [List.length_cons, List.length_nil] at hlt
        omega
      · exact decode_first ha (by decide)
      · exact decode_first_two ha (by decide) hb
  | four ha hb hc hd =>
      obtain rfl | rfl | rfl : count = 1 ∨ count = 2 ∨ count = 3 := by
        simp only [List.length_cons, List.length_nil] at hlt
        omega
      · exact decode_first ha (by decide)
      · exact decode_first_two ha (by decide) hb
      · exact decode_first_three ha hb hc

/-! ### Texts -/

theorem byteLength_append (cs ds : List Char) :
    byteLength (cs ++ ds) = byteLength cs + byteLength ds := by
  rw [byteLength, encode_append, List.length_append]
  rfl

theorem byteLength_singleton (c : Char) : byteLength [c] = (encodeChar c).length := by
  simp [byteLength]

/-- A beginning of a text has no more bytes than the text. -/
theorem byteLength_le_of_prefix {cs ds : List Char} (h : cs <+: ds) :
    byteLength cs ≤ byteLength ds := by
  obtain ⟨rest, rfl⟩ := h
  rw [byteLength_append]
  exact Nat.le_add_right _ _

/-- A text that does not fit is cut at one of its characters, in front of it or inside. -/
theorem exists_cut {cs : List Char} {room : Nat} (h : room < byteLength cs) :
    ∃ before c after, cs = before ++ c :: after ∧ byteLength before ≤ room ∧
      room < byteLength (before ++ [c]) := by
  induction cs generalizing room with
  | nil => exact absurd h (Nat.not_lt_zero room)
  | cons c cs ih =>
      by_cases hfirst : room < byteLength [c]
      · exact ⟨[], c, cs, rfl, Nat.zero_le room, hfirst⟩
      · have hsplit := byteLength_append [c] cs
        rw [List.singleton_append] at hsplit
        have hlater : room - byteLength [c] < byteLength cs := by omega
        obtain ⟨before, d, after, hcs, hfits, hcut⟩ := ih hlater
        have hbefore := byteLength_append [c] before
        have hnext := byteLength_append [c] (before ++ [d])
        refine ⟨c :: before, d, after, by rw [hcs, List.cons_append], ?_, ?_⟩
        · rw [← List.singleton_append, hbefore]
          omega
        · rw [List.cons_append, ← List.singleton_append, hnext]
          omega

/-- What is in front of the cut is the longest beginning of the text that fits. -/
theorem prefix_of_cut {before after piece : List Char} {c : Char} {room : Nat}
    (hcut : room < byteLength (before ++ [c])) (hpiece : piece <+: before ++ c :: after)
    (hfits : byteLength piece ≤ room) : piece <+: before := by
  have hnext : before ++ [c] <+: before ++ c :: after := ⟨after, by simp⟩
  rcases List.prefix_or_prefix_of_prefix hpiece hnext with hshort | hlong
  · rcases List.prefix_concat_iff.mp hshort with heq | hbefore
    · rw [heq] at hfits
      omega
    · exact hbefore
  · have hle := byteLength_le_of_prefix hlong
    omega

/-- **What is left of a text** behind a cut: the characters in front of it, and a replacement if it
falls inside the next. -/
theorem decode_take_encode {before after : List Char} {c : Char} {room : Nat}
    (hfits : byteLength before ≤ room) (hcut : room < byteLength (before ++ [c])) :
    decode ((encode (before ++ c :: after)).take room) =
      before ++ if byteLength before < room then [replacement] else [] := by
  have hnext := byteLength_append before [c]
  rw [byteLength_singleton] at hnext
  obtain ⟨count, rfl⟩ := Nat.exists_eq_add_of_le hfits
  have htake : (encode (before ++ c :: after)).take (byteLength before + count) =
      encode before ++ (encodeChar c).take count := by
    rw [encode_append, encode_cons, byteLength, List.take_length_add_append,
      List.take_append_of_le_length (by omega)]
  rw [htake, decode_encode_append]
  split
  · rename_i hinside
    rw [(wellFormed_encodeChar c).decode_take (by omega) (by omega)]
  · rename_i hbetween
    obtain rfl : count = 0 := by omega
    rfl

/-- A character of the text has bytes on both sides of the cut. -/
def CutsInside (cs : List Char) (room : Nat) : Prop :=
  ∃ before c after, cs = before ++ c :: after ∧ byteLength before < room ∧
    room < byteLength (before ++ [c])

/-- Where a text is cut at one of its characters, no other is cut inside. -/
theorem cutsInside_iff {before after : List Char} {c : Char} {room : Nat}
    (hfits : byteLength before ≤ room) (hcut : room < byteLength (before ++ [c])) :
    CutsInside (before ++ c :: after) room ↔ byteLength before < room := by
  constructor
  · intro h
    obtain ⟨before', c', after', heq, hfits', hcut'⟩ := h
    have hthis : before <+: before' ++ c' :: after' := ⟨c :: after, heq⟩
    have hother : before' <+: before ++ c :: after := ⟨c' :: after', heq.symm⟩
    have hle := prefix_of_cut hcut hother hfits'.le
    have hge := prefix_of_cut hcut' hthis hfits
    rwa [hge.eq_of_length_le hle.length_le]
  · intro h
    exact ⟨before, c, after, rfl, h, hcut⟩

/-- **Reading a text that was cut off.** It is read whole if it fits. If it does not, its longest
beginning that fits is, and one replacement behind that exactly if a character is cut inside. -/
theorem decode_take_encode_spec (cs : List Char) (room : Nat) :
    (byteLength cs ≤ room → decode ((encode cs).take room) = cs) ∧
      (room < byteLength cs → ∃ kept, kept <+: cs ∧ byteLength kept ≤ room ∧
        (∀ piece, piece <+: cs → byteLength piece ≤ room → piece <+: kept) ∧
        (CutsInside cs room → decode ((encode cs).take room) = kept ++ [replacement]) ∧
        (¬CutsInside cs room → decode ((encode cs).take room) = kept)) := by
  constructor
  · intro hfits
    rw [List.take_of_length_le hfits, decode_encode]
  · intro hlong
    obtain ⟨before, c, after, rfl, hfits, hcut⟩ := exists_cut hlong
    rw [decode_take_encode hfits hcut, cutsInside_iff hfits hcut]
    refine ⟨before, List.prefix_append _ _, hfits, ?_, ?_, ?_⟩
    · intro piece hpiece hfitting
      exact prefix_of_cut hcut hpiece hfitting
    · intro hinside
      rw [if_pos hinside]
    · intro hbetween
      rw [if_neg hbetween, List.append_nil]

end TelescopeLink.Text
