import TelescopeLink.Json.Basic
import TelescopeLink.Text.Decimal
import TelescopeLink.Text.Utf8

/-!
# Texts in JSON

A text is written between double quotes. Written here, only the quote, the backslash and the
characters below U+0020 are escaped, so a written text is always one line. Read here, every escape
of JSON is understood; a character beyond U+FFFF is escaped as a pair of surrogates, and a surrogate
without its partner is refused.
-/

namespace TelescopeLink.Json

open TelescopeLink.Text

/-- A character inside quotes. -/
def escapeChar (c : Char) : List Char :=
  if c = '"' then ['\\', '"']
  else if c = '\\' then ['\\', '\\']
  else if c = '\x08' then ['\\', 'b']
  else if c = '\t' then ['\\', 't']
  else if c = '\n' then ['\\', 'n']
  else if c = '\x0c' then ['\\', 'f']
  else if c = '\r' then ['\\', 'r']
  else if c.toNat < 0x20 then
    ['\\', 'u', '0', '0', Nat.digitChar (c.toNat / 16), Nat.digitChar (c.toNat % 16)]
  else [c]

/-- The text between quotes. -/
def quote (cs : List Char) : List Char := '"' :: (cs.flatMap escapeChar ++ ['"'])

/-- The character that a backslash and a letter stand for. -/
def shortEscape? (c : Char) : Option Char :=
  if c = '"' then some '"'
  else if c = '\\' then some '\\'
  else if c = '/' then some '/'
  else if c = 'b' then some '\x08'
  else if c = 'f' then some '\x0c'
  else if c = 'n' then some '\n'
  else if c = 'r' then some '\r'
  else if c = 't' then some '\t'
  else none

/-- The first unit of a pair. -/
def isHighSurrogate (unit : Nat) : Bool := decide (0xD800 ≤ unit) && decide (unit ≤ 0xDBFF)

/-- The second unit of a pair. -/
def isLowSurrogate (unit : Nat) : Bool := decide (0xDC00 ≤ unit) && decide (unit ≤ 0xDFFF)

/-- The character of a pair of surrogates. -/
def pairedChar (high low : Nat) : Char :=
  Char.ofNat (0x10000 + (high - 0xD800) * 0x400 + (low - 0xDC00))

/-- The fault of an escape with fewer than four characters behind it, which may still be four bytes:
then one of them is no digit. -/
def shortUnitFault (rest : List Char) : Fault :=
  if byteLength rest < 4 then .truncated else .malformed

/-- Puts a character in front of the text that was read. -/
def prepend (c : Char) (read : Read (List Char)) : Read (List Char) :=
  read.map fun (cs, rest) => (c :: cs, rest)

/-- The text up to the closing quote. -/
def readTextBody : List Char → Read (List Char)
  | [] => .error .truncated
  | c :: rest =>
    if c = '"' then .ok ([], rest)
    else if c = '\\' then
      match rest with
      | [] => .error .truncated
      | e :: rest =>
        if e = 'u' then
          match rest with
          | h₁ :: h₂ :: h₃ :: h₄ :: rest =>
            match hexDigitsValue? [h₁, h₂, h₃, h₄] with
            | none => .error .malformed
            | some unit =>
              if isHighSurrogate unit then
                match rest with
                | '\\' :: 'u' :: l₁ :: l₂ :: l₃ :: l₄ :: rest =>
                  match hexDigitsValue? [l₁, l₂, l₃, l₄] with
                  | none => .error .malformed
                  | some low =>
                    if isLowSurrogate low then prepend (pairedChar unit low) (readTextBody rest)
                    else .error .malformed
                | '\\' :: 'u' :: rest => .error (shortUnitFault rest)
                | [] | ['\\'] => .error .truncated
                | _ => .error .malformed
              else if isLowSurrogate unit then .error .malformed
              else prepend (Char.ofNat unit) (readTextBody rest)
          | rest => .error (shortUnitFault rest)
        else
          match shortEscape? e with
          | some c => prepend c (readTextBody rest)
          | none => .error .malformed
    else if c.toNat < 0x20 then .error .malformed
    else prepend c (readTextBody rest)

end TelescopeLink.Json
