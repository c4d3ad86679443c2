import TelescopeLink.Error
import TelescopeLink.Message
import TelescopeLink.Text.Utf8

/-!
# Messages as datagrams

A datagram is a header of seven big-endian words (the two addresses, the class, the service class,
the number, and the two words of a timestamp), then the text in UTF-8, then a zero byte.

Reading asks for a whole header and for nothing else: the text ends at the first zero byte or with
the datagram, and bytes that spell no character are replaced. So a datagram that was cut short
anywhere behind its header still says which request it belongs to.
-/

namespace TelescopeLink

/-- The bytes of a datagram. -/
abbrev Datagram := List UInt8

namespace Datagram

/-- How many bytes a header has. -/
def headerLength : Nat := 28

/-- The byte behind the text. -/
def terminator : UInt8 := 0

/-- How many bytes of a datagram are received unless the settings say otherwise. -/
def maxLength : Nat := 65536

/-- The bytes of a word, highest first. -/
def ofWord (word : Int32) : List UInt8 :=
  let n := word.toUInt32.toNat
  [(n >>> 24).toUInt8, (n >>> 16).toUInt8, (n >>> 8).toUInt8, n.toUInt8]

/-- The word that four bytes spell. -/
def toWord (bytes : List UInt8) : Int32 :=
  (UInt32.ofNat (bytes.foldl (fun n b => 256 * n + b.toNat) 0)).toInt32

/-- The word of the header at an index. -/
def word (bytes : Datagram) (index : Nat) : Int32 := toWord ((bytes.drop (4 * index)).take 4)

/-- The words of the header of a message, in order. -/
def header (message : Message) (time : Timestamp) : List Int32 :=
  [message.sender, message.receiver, message.classCode, message.serviceClass, message.sequence,
    time.seconds, time.nanos]

/-- Fills a buffer with the datagram of a message. The buffer is emptied first, so it can be used
for one message after another. -/
def fill (buffer : List UInt8) (message : Message) (time : Timestamp) : Datagram :=
  buffer.take 0 ++ (header message time).flatMap ofWord ++ Text.encode message.text.toList ++
    [terminator]

/-- The datagram of a message. -/
def ofMessage (message : Message) (time : Timestamp) : Datagram := fill [] message time

/-- The text of a datagram: what stands behind the header before a zero byte. -/
def text (bytes : Datagram) : String :=
  String.ofList (Text.decode ((bytes.drop headerLength).takeWhile (· ≠ terminator)))

/-- The message in a datagram and the time it was stamped with. -/
def read (bytes : Datagram) : Except Error (Message × Timestamp) :=
  if bytes.length < headerLength then .error (.shortDatagram bytes.length)
  else
    .ok
      ({ sender := bytes.word 0
         receiver := bytes.word 1
         classCode := bytes.word 2
         serviceClass := bytes.word 3
         sequence := bytes.word 4
         text := bytes.text },
       { seconds := bytes.word 5
         nanos := bytes.word 6 })

/-- The message in a datagram. -/
def message (bytes : Datagram) : Except Error Message := (read bytes).map (·.1)

/-! ## Words -/

@[simp] theorem length_ofWord (word : Int32) : (ofWord word).length = 4 := rfl

@[simp] theorem toWord_ofWord (word : Int32) : toWord (ofWord word) = word := by
  have hlt := word.toUInt32.toNat_lt
  have hn : (ofWord word).foldl (fun n b => 256 * n + b.toNat) 0 = word.toUInt32.toNat := by
    simp only [ofWord, List.foldl_cons, List.foldl_nil, Nat.toUInt8, UInt8.toNat_ofNat']
    omega
  rw [toWord, hn, UInt32.ofNat_toNat]
  rfl

theorem length_flatMap_ofWord (words : List Int32) :
    (words.flatMap ofWord).length = 4 * words.length := by
  induction words with
  | nil => rfl
  | cons word rest ih =>
    simp [ih]
    omega

/-! ## Whole datagrams -/

/-- A datagram is its header, the bytes of its text and the terminator. -/
theorem length_ofMessage (message : Message) (time : Timestamp) :
    (ofMessage message time).length = headerLength + Text.byteLength message.text.toList + 1 := by
  rw [ofMessage, fill, List.length_append, List.length_append, List.length_append,
    length_flatMap_ofWord]
  simp [header, headerLength, Text.byteLength]

/-- Reading fails for want of a whole header and for nothing else. -/
theorem read_eq_error_iff {bytes : Datagram} {error : Error} :
    read bytes = .error error ↔
      bytes.length < headerLength ∧ error = .shortDatagram bytes.length := by
  unfold read
  split
  · rename_i h
    simp [h, eq_comm]
  · rename_i h
    simp [h]

@[simp] theorem fill_eq_ofMessage (buffer : List UInt8) (message : Message) (time : Timestamp) :
    fill buffer message time = ofMessage message time := by
  simp [fill, ofMessage]

end Datagram

end TelescopeLink
