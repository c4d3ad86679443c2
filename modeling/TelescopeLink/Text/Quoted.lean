import TelescopeLink.Text.Case
import TelescopeLink.Text.PrintData

/-!
# Quoted texts

A text as messages show it: between double quotes, with short escapes for the quote, the backslash,
NUL, tab, line feed and carriage return, and the code in braces for a character that has no picture
of its own or would join the one before it.
-/

namespace TelescopeLink.Text

/-- A character that is shown as it stands. -/
def isShown (c : Char) : Bool :=
  !([invisibleRanges, ignorableRanges, attachedRanges].any (inRanges · c.toNat))

/-- A character inside quotes. -/
def quotedChar (c : Char) : List Char :=
  if c = '\x00' then ['\\', '0']
  else if c = '\t' then ['\\', 't']
  else if c = '\r' then ['\\', 'r']
  else if c = '\n' then ['\\', 'n']
  else if c = '"' then ['\\', '"']
  else if c = '\\' then ['\\', '\\']
  else if isShown c then [c]
  else ['\\', 'u', '\x7b'] ++ Nat.toDigits 16 c.toNat ++ ['\x7d']

/-- The text between quotes. -/
def quoted (cs : List Char) : List Char := '"' :: cs.flatMap quotedChar ++ ['"']

end TelescopeLink.Text
