/-!
# UTF-8

Texts as bytes and back. Reading never fails: a byte sequence that begins no character is replaced
by one U+FFFD, and such a sequence is taken as long as it could still have become a character, so a
character cut off at the end of a datagram leaves one replacement behind and damages nothing before
it.

The first byte decides how many bytes a character has, and the bounds on its second byte exclude
overlong forms, surrogates and codes beyond U+10FFFF; every later byte is any continuation byte.
-/

namespace TelescopeLink.Text

/-- The bytes of one character. -/
def encodeChar (c : Char) : List UInt8 :=
  let n := c.toNat
  if n < 0x80 then [n.toUInt8]
  else if n < 0x800 then [(0xC0 + n / 0x40).toUInt8, (0x80 + n % 0x40).toUInt8]
  else if n < 0x10000 then
    [(0xE0 + n / 0x1000).toUInt8, (0x80 + n / 0x40 % 0x40).toUInt8, (0x80 + n % 0x40).toUInt8]
  else
    [(0xF0 + n / 0x40000).toUInt8, (0x80 + n / 0x1000 % 0x40).toUInt8,
      (0x80 + n / 0x40 % 0x40).toUInt8, (0x80 + n % 0x40).toUInt8]

/-- The bytes of a text. -/
def encode (cs : List Char) : List UInt8 := cs.flatMap encodeChar

/-- How many bytes a text takes. -/
def byteLength (cs : List Char) : Nat := (encode cs).length

/-- What stands for bytes that are no character. -/
def replacement : Char := '\uFFFD'

/-- A byte that may stand after the second byte of a character. -/
def isContinuation (b : UInt8) : Bool := 0x80 ≤ b && b ≤ 0xBF

/-- The byte `b` may stand second in a character that begins with `lead`. -/
def follows (lead b : UInt8) : Bool :=
  (if lead = 0xE0 then 0xA0 else if lead = 0xF0 then 0x90 else 0x80) ≤ b &&
    b ≤ (if lead = 0xED then 0x9F else if lead = 0xF4 then 0x8F else 0xBF)

/-- How many bytes a character has that begins with this byte, if one does. -/
def leadLength (b : UInt8) : Option Nat :=
  if b < 0x80 then some 1
  else if 0xC2 ≤ b && b ≤ 0xDF then some 2
  else if 0xE0 ≤ b && b ≤ 0xEF then some 3
  else if 0xF0 ≤ b && b ≤ 0xF4 then some 4
  else none

/-- The six bits that a continuation byte carries. -/
def payload (b : UInt8) : Nat := b.toNat % 0x40

/-- The text that the bytes spell, with replacements. -/
def decode : List UInt8 → List Char
  | [] => []
  | a :: rest =>
    match leadLength a with
    | some 1 => Char.ofNat a.toNat :: decode rest
    | some 2 =>
      match rest with
      | b :: rest =>
        if follows a b then Char.ofNat (a.toNat % 0x20 * 0x40 + payload b) :: decode rest
        else replacement :: decode (b :: rest)
      | [] => [replacement]
    | some 3 =>
      match rest with
      | b :: rest =>
        if follows a b then
          match rest with
          | c :: rest =>
            if isContinuation c then
              Char.ofNat (a.toNat % 0x10 * 0x1000 + payload b * 0x40 + payload c) :: decode rest
            else replacement :: decode (c :: rest)
          | [] => [replacement]
        else replacement :: decode (b :: rest)
      | [] => [replacement]
    | some 4 =>
      match rest with
      | b :: rest =>
        if follows a b then
          match rest with
          | c :: rest =>
            if isContinuation c then
              match rest with
              | d :: rest =>
                if isContinuation d then
                  Char.ofNat (a.toNat % 0x08 * 0x40000 + payload b * 0x1000 + payload c * 0x40 +
                    payload d) :: decode rest
                else replacement :: decode (d :: rest)
              | [] => [replacement]
            else replacement :: decode (c :: rest)
          | [] => [replacement]
        else replacement :: decode (b :: rest)
      | [] => [replacement]
    | _ => replacement :: decode rest

/-- The text whose bytes these are, if they are those of a text. -/
def decode? (bytes : List UInt8) : Option (List Char) :=
  let cs := decode bytes
  if encode cs = bytes then some cs else none

@[simp] theorem encode_nil : encode [] = [] := rfl

@[simp] theorem encode_cons (c : Char) (cs : List Char) :
    encode (c :: cs) = encodeChar c ++ encode cs := rfl

@[simp] theorem encode_append (cs ds : List Char) : encode (cs ++ ds) = encode cs ++ encode ds := by
  simp [encode]

end TelescopeLink.Text
