import TelescopeLink.Proofs.Message.Datagram
import TelescopeLink.Proofs.Text.Cut

/-!
# Datagrams that are cut short

A receiver has room for so many bytes of a datagram, and the others are lost. As long as the header
arrives nothing of it is lost, so the message still finds its request, and of the text only the end
is missing (`read_take_fill`). A character that is cut inside becomes one replacement, and whatever
stands before it is read as it was written.
-/

namespace TelescopeLink

namespace Datagram

open Text

/-- The words of the header are read from its bytes alone. -/
theorem word_take {bytes : Datagram} {count index : Nat} (hcount : headerLength ≤ count)
    (hindex : index < 7) : word (bytes.take count) index = word bytes index := by
  unfold headerLength at hcount
  rw [word, word, List.drop_take, List.take_take, Nat.min_eq_left (by omega)]

/-- A datagram that was cut behind its header says what the whole one does, but for the text. -/
theorem read_take {bytes : Datagram} {message : Message} {time : Timestamp} {count : Nat}
    (hcount : headerLength ≤ count) (h : read bytes = .ok (message, time)) :
    read (bytes.take count) = .ok ({ message with text := text (bytes.take count) }, time) := by
  unfold read at h
  split at h
  · simp at h
  · rename_i hlength
    simp only [Except.ok.injEq, Prod.mk.injEq] at h
    obtain ⟨rfl, rfl⟩ := h
    have hlong : ¬(bytes.take count).length < headerLength := by
      rw [List.length_take]
      omega
    rw [read, if_neg hlong, word_take hcount (by decide), word_take hcount (by decide),
      word_take hcount (by decide), word_take hcount (by decide), word_take hcount (by decide),
      word_take hcount (by decide), word_take hcount (by decide)]

/-- The text of a datagram that was cut behind its header. -/
theorem text_take_ofMessage (message : Message) (time : Timestamp) (room : Nat) :
    text ((ofMessage message time).take (headerLength + room)) =
      String.ofList (decode ((encode (beforeNul message.text).toList).take room)) := by
  -- Cutting commutes with looking for the first zero byte.
  have hbody : (ofMessage message time).drop headerLength =
      encode message.text.toList ++ [terminator] := rfl
  rw [text, List.drop_take, Nat.add_sub_cancel_left, hbody, ← List.take_takeWhile, terminator,
    takeWhile_encode, beforeNul, String.toList_ofList]

/-- **Messages that are cut short.** The first bytes of a datagram, if they hold the header, are read
as a message with the same header and the same time. Let the text be the message's up to its first
NUL. If all its bytes have arrived it is read as it is. Otherwise its longest beginning is read of
which all bytes have arrived, and behind that one U+FFFD exactly if the next character has lost only
some of its bytes. -/
theorem read_take_fill (buffer : List UInt8) (message : Message) (time : Timestamp) {count : Nat}
    (h : 28 ≤ count) :
    ∃ text : String,
      read ((fill buffer message time).take count) = .ok ({ message with text }, time) ∧
      (28 + (beforeNul message.text).utf8ByteSize ≤ count → text = beforeNul message.text) ∧
      (count < 28 + (beforeNul message.text).utf8ByteSize → ∃ kept : String,
        kept.toList <+: (beforeNul message.text).toList ∧ 28 + kept.utf8ByteSize ≤ count ∧
        (∀ piece : String, piece.toList <+: (beforeNul message.text).toList →
          28 + piece.utf8ByteSize ≤ count → piece.toList <+: kept.toList) ∧
        (CutsInside (beforeNul message.text).toList (count - 28) → text = kept ++ "\uFFFD") ∧
        (¬CutsInside (beforeNul message.text).toList (count - 28) → text = kept)) := by
  obtain ⟨room, rfl⟩ := Nat.exists_eq_add_of_le h
  have hread := read_take (Nat.le_add_right headerLength room) (read_ofMessage message time)
  rw [text_take_ofMessage] at hread
  rw [fill_eq_ofMessage, Nat.add_sub_cancel_left]
  obtain ⟨hwhole, hcut⟩ := decode_take_encode_spec (beforeNul message.text).toList room
  rw [byteLength_toList] at hwhole hcut
  refine ⟨_, hread, ?_, ?_⟩
  · intro hfits
    rw [hwhole (by omega), String.ofList_toList]
  · intro hlong
    obtain ⟨kept, hprefix, hfits, hlongest, hinside, hbetween⟩ := hcut (by omega)
    refine ⟨String.ofList kept, ?_, ?_, ?_, ?_, ?_⟩
    · rw [String.toList_ofList]
      exact hprefix
    · rw [← byteLength_toList, String.toList_ofList]
      omega
    · intro piece hpiece hfitting
      rw [String.toList_ofList]
      refine hlongest _ hpiece ?_
      rw [byteLength_toList]
      omega
    · intro hcuts
      rw [hinside hcuts, String.ofList_append]
      rfl
    · intro hcuts
      rw [hbetween hcuts]

/-- A text with a NUL, cut before the last byte of the euro sign. -/
theorem read_take_fill_euro :
    28 ≤ 33 ∧ ∃ kept : String,
      read ((fill [7] ⟨1, 17, 6, 1, 5, "aé€\x00b"⟩ ⟨2, 3⟩).take 33) =
        .ok (⟨1, 17, 6, 1, 5, kept ++ "\uFFFD"⟩, ⟨2, 3⟩) ∧
      kept.toList <+: "aé€".toList ∧ "aé".toList <+: kept.toList := by
  have htext : beforeNul "aé€\x00b" = "aé€" := by decide
  have hinside : CutsInside "aé€".toList 5 :=
    ⟨"aé".toList, '€', [], by decide, by decide, by decide⟩
  obtain ⟨text, hread, -, hcut⟩ :=
    read_take_fill [7] ⟨1, 17, 6, 1, 5, "aé€\x00b"⟩ ⟨2, 3⟩ (show 28 ≤ 33 by decide)
  simp only [htext] at hcut
  obtain ⟨kept, hprefix, -, hlongest, hreplaced, -⟩ := hcut (by decide)
  refine ⟨by decide, kept, ?_, hprefix, hlongest "aé" (by decide) (by decide)⟩
  rw [← hreplaced hinside]
  exact hread

end Datagram

end TelescopeLink
