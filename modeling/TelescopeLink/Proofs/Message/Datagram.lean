import TelescopeLink.Message.Datagram
import TelescopeLink.Proofs.Text.Utf8

/-!
# Messages survive as datagrams, up to NUL

Reading a datagram gives back the message that it was made of, and its timestamp, but for one thing:
the text is not escaped, and a zero byte ends it, so it comes back only up to its first NUL
(`read_ofMessage`). A message is read back whole exactly if its text has no NUL
(`read_ofMessage_eq_iff`). `read_fill` is all of this for a buffer that is used again and again.

Any other bytes are read as well if they have a whole header, and what is read from them is a message
in normal form: written and read again it stays as it is, whatever the bytes were. The words of the
header are the bytes of the header (`header_read`), so only what stands behind it can be lost, and
`read_normalizes` says for which bytes nothing is.
-/

namespace TelescopeLink

/-- The text up to its first NUL. -/
def Text.beforeNul (text : String) : String := String.ofList (text.toList.takeWhile (· ≠ '\x00'))

theorem Text.forall_ne_nul_iff {cs : List Char} :
    (∀ c ∈ cs, decide (c ≠ '\x00') = true) ↔ '\x00' ∉ cs := by
  simp only [decide_eq_true_eq]
  constructor
  · intro h hmem
    exact h '\x00' hmem rfl
  · rintro h c hc rfl
    exact h hc

/-- What is left of a text is free of NUL. -/
theorem Text.nul_notMem_beforeNul (text : String) : '\x00' ∉ (beforeNul text).toList := by
  intro h
  rw [beforeNul, String.toList_ofList] at h
  simpa using List.mem_takeWhile_imp h

theorem Text.beforeNul_isPrefix (text : String) : (beforeNul text).toList <+: text.toList := by
  rw [beforeNul, String.toList_ofList]
  exact List.takeWhile_prefix _

/-- No longer beginning of the text is free of NUL. -/
theorem Text.isPrefix_beforeNul {text : String} {piece : List Char} (h : piece <+: text.toList)
    (hnul : '\x00' ∉ piece) : piece <+: (beforeNul text).toList := by
  obtain ⟨rest, hrest⟩ := h
  rw [beforeNul, String.toList_ofList, ← hrest,
    List.takeWhile_append_of_pos (forall_ne_nul_iff.mpr hnul)]
  exact List.prefix_append _ _

/-- Nothing is cut off exactly if there is no NUL. -/
theorem Text.beforeNul_eq_iff {text : String} :
    beforeNul text = text ↔ '\x00' ∉ text.toList := by
  rw [← forall_ne_nul_iff, ← List.takeWhile_eq_self_iff, beforeNul]
  constructor
  · intro h
    simpa using congrArg String.toList h
  · intro h
    rw [h, String.ofList_toList]

namespace Datagram

/-- The text of a datagram ends at the first NUL of the text that it was made of. -/
theorem text_ofMessage (message : Message) (time : Timestamp) :
    text (ofMessage message time) = Text.beforeNul message.text := by
  have hbody : (ofMessage message time).drop headerLength =
      Text.encode message.text.toList ++ [terminator] := rfl
  rw [text, hbody, terminator, Text.takeWhile_encode, Text.decode_encode]
  rfl

/-- **A datagram is read back** as the message that it was made of, its text cut at the first
NUL. -/
theorem read_ofMessage (message : Message) (time : Timestamp) :
    read (ofMessage message time) =
      .ok ({ message with text := Text.beforeNul message.text }, time) := by
  have hlength : ¬(ofMessage message time).length < headerLength := by
    rw [length_ofMessage]
    omega
  have hsender : word (ofMessage message time) 0 = message.sender := toWord_ofWord _
  have hreceiver : word (ofMessage message time) 1 = message.receiver := toWord_ofWord _
  have hclass : word (ofMessage message time) 2 = message.classCode := toWord_ofWord _
  have hservice : word (ofMessage message time) 3 = message.serviceClass := toWord_ofWord _
  have hsequence : word (ofMessage message time) 4 = message.sequence := toWord_ofWord _
  have hseconds : word (ofMessage message time) 5 = time.seconds := toWord_ofWord _
  have hnanos : word (ofMessage message time) 6 = time.nanos := toWord_ofWord _
  rw [read, if_neg hlength, hsender, hreceiver, hclass, hservice, hsequence, hseconds, hnanos,
    text_ofMessage]

/-- It is read back whole exactly if its text has no NUL. -/
theorem read_ofMessage_eq_iff {message : Message} {time : Timestamp} :
    read (ofMessage message time) = .ok (message, time) ↔ '\x00' ∉ message.text.toList := by
  rw [read_ofMessage, ← Text.beforeNul_eq_iff]
  constructor
  · intro h
    have hmessage := congrArg Message.text (Prod.mk.inj (Except.ok.inj h)).1
    exact hmessage
  · intro h
    rw [h]

/-- **Writing and reading.** Whatever the buffer held before, a message fills it with a header, the
bytes of its text and one byte more, and reading gives the message and the time back, the text up to
its first NUL: the longest beginning of it that has none. So the message comes back unchanged exactly
if its text has no NUL. -/
theorem read_fill (buffer : List UInt8) (message : Message) (time : Timestamp) :
    (fill buffer message time).length = 28 + message.text.utf8ByteSize + 1 ∧
      (∃ text : String, read (fill buffer message time) = .ok ({ message with text }, time) ∧
        text.toList <+: message.text.toList ∧ '\x00' ∉ text.toList ∧
          ∀ piece, piece <+: message.text.toList → '\x00' ∉ piece → piece <+: text.toList) ∧
      (read (fill buffer message time) = .ok (message, time) ↔ '\x00' ∉ message.text.toList) := by
  rw [fill_eq_ofMessage]
  refine ⟨?_, ⟨Text.beforeNul message.text, read_ofMessage message time, ?_, ?_, ?_⟩,
    read_ofMessage_eq_iff⟩
  · rw [length_ofMessage, Text.byteLength_toList, headerLength]
  · exact Text.beforeNul_isPrefix message.text
  · exact Text.nul_notMem_beforeNul message.text
  · intro piece hpiece hnul
    exact Text.isPrefix_beforeNul hpiece hnul

/-! ### Bytes that nobody wrote as a message -/

/-- Four bytes are those of the word that they spell. -/
theorem ofWord_toWord {bytes : List UInt8} (h : bytes.length = 4) :
    ofWord (toWord bytes) = bytes := by
  obtain ⟨a, b, c, d, rfl⟩ : ∃ a b c d, bytes = [a, b, c, d] := by
    match bytes, h with
    | [a, b, c, d], _ => exact ⟨a, b, c, d, rfl⟩
  have ha := a.toNat_lt
  have hb := b.toNat_lt
  have hc := c.toNat_lt
  have hd := d.toNat_lt
  -- In base 256 the four bytes are the digits of the word, the first of them the highest.
  have hword : (toWord [a, b, c, d]).toUInt32.toNat =
      256 * (256 * (256 * a.toNat + b.toNat) + c.toNat) + d.toNat := by
    simp only [toWord, List.foldl_cons, List.foldl_nil, UInt32.toUInt32_toInt32,
      UInt32.toNat_ofNat']
    omega
  simp only [ofWord, hword, Nat.shiftRight_eq_div_pow]
  rw [Text.toUInt8_eq (b := a) (by omega), Text.toUInt8_eq (b := b) (by omega),
    Text.toUInt8_eq (b := c) (by omega), Text.toUInt8_eq (b := d) (by omega)]

/-- The first words are the first bytes, as far as there are any. -/
theorem flatMap_ofWord_word {bytes : Datagram} {count : Nat} (h : 4 * count ≤ bytes.length) :
    ((List.range count).map bytes.word).flatMap ofWord = bytes.take (4 * count) := by
  induction count with
  | zero => simp
  | succ count ih =>
      have hword : ofWord (bytes.word count) = (bytes.drop (4 * count)).take 4 := by
        apply ofWord_toWord
        simp only [List.length_take, List.length_drop]
        omega
      rw [List.range_succ, List.map_append, List.flatMap_append, ih (by omega), Nat.mul_add_one,
        List.take_add]
      simp [hword]

/-- What is read: the header word for word, and the text. -/
theorem header_read {bytes : Datagram} {message : Message} {time : Timestamp}
    (h : read bytes = .ok (message, time)) :
    (header message time).flatMap ofWord = bytes.take headerLength ∧
      message.text = bytes.text := by
  unfold read at h
  split at h
  · simp at h
  · rename_i hlength
    simp only [Except.ok.injEq, Prod.mk.injEq] at h
    obtain ⟨rfl, rfl⟩ := h
    refine ⟨?_, rfl⟩
    show ((List.range 7).map bytes.word).flatMap ofWord = _
    exact flatMap_ofWord_word (Nat.not_lt.mp hlength)

/-- Writing again what was read keeps the header and replaces what stands behind it. -/
theorem ofMessage_of_read {bytes : Datagram} {message : Message} {time : Timestamp}
    (h : read bytes = .ok (message, time)) :
    ofMessage message time = bytes.take headerLength ++ (Text.encode bytes.text.toList ++ [0]) := by
  obtain ⟨hheader, htext⟩ := header_read h
  rw [ofMessage, fill, hheader, htext, List.append_assoc]
  rfl

/-- No datagram is read as a text with a NUL, since its body ends at the first zero byte and no
other byte is part of one. -/
theorem nul_notMem_text (bytes : Datagram) : '\x00' ∉ bytes.text.toList := by
  intro h
  rw [text, String.toList_ofList] at h
  have hzero := Text.zero_mem_of_nul_mem_decode h
  simpa [terminator] using List.mem_takeWhile_imp hzero

/-- What stands behind the header is written again as it was exactly if it is a text without NUL and
one zero byte. -/
theorem encode_text_eq_iff {bytes : Datagram} :
    Text.encode bytes.text.toList ++ [0] = bytes.drop headerLength ↔
      ∃ body, bytes.drop headerLength = body ++ [0] ∧ 0 ∉ body ∧
        body.toByteArray.IsValidUTF8 := by
  constructor
  · intro h
    refine ⟨Text.encode bytes.text.toList, h.symm, ?_, Text.isValidUTF8_iff.mpr ⟨_, rfl⟩⟩
    rw [Text.zero_mem_encode_iff]
    exact nul_notMem_text bytes
  · rintro ⟨body, hbody, hzero, hvalid⟩
    obtain ⟨cs, rfl⟩ := Text.isValidUTF8_iff.mp hvalid
    have hnul := Text.forall_ne_nul_iff.mpr fun hc => hzero (Text.zero_mem_encode_iff.mpr hc)
    rw [text, hbody, terminator, Text.takeWhile_encode, List.takeWhile_eq_self_iff.mpr hnul,
      Text.decode_encode, String.toList_ofList]

/-- **Reading normalizes.** Bytes are refused exactly if they are fewer than a header has. What is
read from all others has no NUL in its text, and written and read again it stays the same. The bytes
themselves are written again exactly if what stands behind the header is valid UTF-8 without a zero
byte, then one zero byte, and nothing more. -/
theorem read_normalizes (bytes : Datagram) :
    ((∃ error, read bytes = .error error) ↔ bytes.length < 28) ∧
      (28 ≤ bytes.length → ∃ message time, read bytes = .ok (message, time) ∧
        '\x00' ∉ message.text.toList ∧
        ∀ buffer, read (fill buffer message time) = .ok (message, time) ∧
          (fill buffer message time = bytes ↔
            ∃ body, bytes.drop 28 = body ++ [0] ∧ 0 ∉ body ∧ body.toByteArray.IsValidUTF8)) := by
  constructor
  · simp [read_eq_error_iff, headerLength]
  · intro hlength
    cases hread : read bytes with
    | error error =>
        have hshort := (read_eq_error_iff.mp hread).1
        exact absurd hlength (Nat.not_le.mpr hshort)
    | ok result =>
        obtain ⟨message, time⟩ := result
        have hnul : '\x00' ∉ message.text.toList := by
          rw [(header_read hread).2]
          exact nul_notMem_text bytes
        refine ⟨message, time, rfl, hnul, fun buffer => ?_⟩
        rw [fill_eq_ofMessage]
        refine ⟨read_ofMessage_eq_iff.mpr hnul, ?_⟩
        -- The header is kept, so it cancels on both sides and only the bodies are compared.
        calc ofMessage message time = bytes
            ↔ bytes.take headerLength ++ (Text.encode bytes.text.toList ++ [0]) =
                bytes.take headerLength ++ bytes.drop headerLength := by
              rw [ofMessage_of_read hread, List.take_append_drop]
          _ ↔ Text.encode bytes.text.toList ++ [0] = bytes.drop headerLength :=
              List.append_right_inj _
          _ ↔ _ := encode_text_eq_iff

end Datagram

end TelescopeLink
