import TelescopeLink.Text.Decimal

/-!
# Texts and keys in TOML

A text is written in one of four ways: between double quotes, where a backslash escapes, or between
single quotes, where nothing does; and each of these with one or with three quotes, where a text
with three may run over several lines. A key that is made of letters, digits, `_` and `-` needs no
quotes.

Written here, a text takes the plainest way that needs no escapes, and is escaped between double
quotes only if there is none. Three quotes in a row end a text, so a text of several lines may hold
two.
-/

namespace TelescopeLink.Toml

open TelescopeLink.Text

/-- A blank within a line. -/
def isSpace (c : Char) : Bool := c == ' ' || c == '\t'

/-- The text from its next character that is no blank. -/
def skipSpaces (cs : List Char) : List Char := cs.dropWhile isSpace

/-- A character that stands for itself between double quotes. -/
def isBasic (c : Char) : Bool :=
  c == '\t' || (0x20 ≤ c.toNat && c != '"' && c != '\\' && c.toNat != 0x7F)

/-- A character that may stand between single quotes. -/
def isLiteral (c : Char) : Bool := c == '\t' || (0x20 ≤ c.toNat && c != '\'' && c.toNat != 0x7F)

/-- A character of a key without quotes. -/
def isBare (c : Char) : Bool := c.isAlpha || c.isDigit || c == '_' || c == '-'

/-- Puts a character in front of the text that was read. -/
def prepend (c : Char) (read : Option (List Char × List Char)) :
    Option (List Char × List Char) :=
  read.map fun (cs, rest) => (c :: cs, rest)

/-- The character that a backslash and a letter stand for. -/
def shortEscape? (c : Char) : Option Char :=
  if c = 'b' then some '\x08'
  else if c = 't' then some '\t'
  else if c = 'n' then some '\n'
  else if c = 'f' then some '\x0c'
  else if c = 'r' then some '\r'
  else if c = '"' then some '"'
  else if c = '\\' then some '\\'
  else none

/-- The character of a code in hexadecimal digits. -/
def codeChar? (digits : List Char) : Option Char :=
  (hexDigitsValue? digits).bind fun n =>
    if n.isValidChar then some (Char.ofNat n) else none

/-- A line break comes next. -/
def atLineBreak : List Char → Bool
  | '\n' :: _ => true
  | '\r' :: '\n' :: _ => true
  | _ => false

/-! ## Reading -/

/-- A text up to its closing double quote. -/
def readBasic : List Char → Option (List Char × List Char)
  | [] => none
  | c :: rest =>
    if c = '"' then some ([], rest)
    else if c = '\\' then
      match rest with
      | 'u' :: h₁ :: h₂ :: h₃ :: h₄ :: rest => do
        let c ← codeChar? [h₁, h₂, h₃, h₄]
        prepend c (readBasic rest)
      | 'U' :: h₁ :: h₂ :: h₃ :: h₄ :: h₅ :: h₆ :: h₇ :: h₈ :: rest => do
        let c ← codeChar? [h₁, h₂, h₃, h₄, h₅, h₆, h₇, h₈]
        prepend c (readBasic rest)
      | e :: rest => do
        let c ← shortEscape? e
        prepend c (readBasic rest)
      | [] => none
    else if isBasic c then prepend c (readBasic rest)
    else none

/-- A text up to its closing single quote. -/
def readLiteral : List Char → Option (List Char × List Char)
  | [] => none
  | c :: rest =>
    if c = '\'' then some ([], rest)
    else if isLiteral c then prepend c (readLiteral rest)
    else none

/-- The quotes behind three that end a text: up to two of them belong to it. -/
def closing (quote : Char) : List Char → List Char × List Char
  | c :: rest =>
    if c = quote then
      match rest with
      | d :: more => if d = quote then ([quote, quote], more) else ([quote], d :: more)
      | [] => ([quote], [])
    else ([], c :: rest)
  | [] => ([], [])

/-- A text up to its three closing double quotes. While `folding`, blanks and line breaks are passed
over, which is what a backslash at the end of a line asks for. -/
def readLongBasic (folding : Bool) : List Char → Option (List Char × List Char)
  | [] => none
  | c :: rest =>
    if folding && (isSpace c || c == '\n') then readLongBasic true rest
    else if c = '\r' then
      match rest with
      | '\n' :: rest =>
        if folding then readLongBasic true rest else prepend '\n' (readLongBasic false rest)
      | _ => none
    else if c = '"' then
      match rest with
      | '"' :: '"' :: rest => some (closing '"' rest)
      | rest => prepend '"' (readLongBasic false rest)
    else if c = '\\' then
      match rest with
      | 'u' :: h₁ :: h₂ :: h₃ :: h₄ :: rest => do
        let c ← codeChar? [h₁, h₂, h₃, h₄]
        prepend c (readLongBasic false rest)
      | 'U' :: h₁ :: h₂ :: h₃ :: h₄ :: h₅ :: h₆ :: h₇ :: h₈ :: rest => do
        let c ← codeChar? [h₁, h₂, h₃, h₄, h₅, h₆, h₇, h₈]
        prepend c (readLongBasic false rest)
      | e :: rest =>
        match shortEscape? e with
        | some c => prepend c (readLongBasic false rest)
        | none =>
          -- Blanks may stand between the backslash and the end of its line.
          if atLineBreak (skipSpaces (e :: rest)) then readLongBasic true (e :: rest) else none
      | [] => none
    else if c = '\n' || isBasic c then prepend c (readLongBasic false rest)
    else none

/-- A text up to its three closing single quotes. -/
def readLongLiteral : List Char → Option (List Char × List Char)
  | [] => none
  | c :: rest =>
    if c = '\r' then
      match rest with
      | '\n' :: rest => prepend '\n' (readLongLiteral rest)
      | _ => none
    else if c = '\'' then
      match rest with
      | '\'' :: '\'' :: rest => some (closing '\'' rest)
      | rest => prepend '\'' (readLongLiteral rest)
    else if c = '\n' || isLiteral c then prepend c (readLongLiteral rest)
    else none

/-- The text behind a line break, if one comes next. -/
def dropLineBreak : List Char → List Char
  | '\n' :: rest => rest
  | '\r' :: '\n' :: rest => rest
  | rest => rest

/-- A text, from its opening quotes on. -/
def readText : List Char → Option (List Char × List Char)
  | '"' :: '"' :: '"' :: rest => readLongBasic false (dropLineBreak rest)
  | '"' :: rest => readBasic rest
  | '\'' :: '\'' :: '\'' :: rest => readLongLiteral (dropLineBreak rest)
  | '\'' :: rest => readLiteral rest
  | _ => none

/-- A part of a key. -/
def readSimpleKey : List Char → Option (List Char × List Char)
  | '"' :: rest => readBasic rest
  | '\'' :: rest => readLiteral rest
  | cs =>
    let key := cs.takeWhile isBare
    if key.isEmpty then none else some (key, cs.dropWhile isBare)

/-! ## Writing -/

/-- A character that only an escape can write; tab and line feed are none. -/
def isControl (c : Char) : Bool :=
  (c.toNat < 0x20 && c != '\t' && c != '\n') || c.toNat == 0x7F

/-- The most quotes of a kind in a row. -/
def longestRun (quote : Char) (current best : Nat) : List Char → Nat
  | [] => max current best
  | c :: rest =>
    if c = quote then longestRun quote (current + 1) best rest
    else longestRun quote 0 (max current best) rest

/-- A hexadecimal digit. -/
def hexDigit (n : Nat) : Char := (Nat.digitChar n).toUpper

/-- A character that is escaped wherever it stands between double quotes, or that stands for itself.
-/
def escapeChar (c : Char) : List Char :=
  if c = '\x08' then ['\\', 'b']
  else if c = '\t' then ['\\', 't']
  else if c = '\n' then ['\\', 'n']
  else if c = '\x0c' then ['\\', 'f']
  else if c = '\r' then ['\\', 'r']
  else if c = '"' then ['\\', '"']
  else if c = '\\' then ['\\', '\\']
  else if isControl c then
    ['\\', 'u', '0', '0', hexDigit (c.toNat / 16), hexDigit (c.toNat % 16)]
  else [c]

/-- A text of several lines between double quotes: line breaks stand for themselves, and of quotes
in a row every third is escaped. -/
def escapeLong (quotes : Nat) : List Char → List Char
  | [] => []
  | c :: rest =>
    if c = '\n' then '\n' :: escapeLong 0 rest
    else if c = '"' then
      if quotes = 2 then '\\' :: '"' :: escapeLong 0 rest else '"' :: escapeLong (quotes + 1) rest
    else escapeChar c ++ escapeLong 0 rest

/-- A text in the plainest way. -/
def textOf (cs : List Char) : List Char :=
  let lines := cs.contains '\n'
  let start := if lines then ['\n'] else []
  let control := cs.any isControl
  let escape := cs.contains '\\'
  let doubles := longestRun '"' 0 0 cs
  let singles := longestRun '\'' 0 0 cs
  let long := ['"', '"', '"'] ++ start ++ escapeLong 0 cs ++ ['"', '"', '"']
  let basic := '"' :: (cs.flatMap escapeChar ++ ['"'])
  if doubles = 0 && !control && !escape && !lines then basic
  else if singles = 0 && !control && !lines then '\'' :: (cs ++ ['\''])
  else if doubles ≤ 2 && !control && !escape then long
  else if singles ≤ 2 && !control then
    ['\'', '\'', '\''] ++ start ++ cs ++ ['\'', '\'', '\'']
  else if lines then long
  else basic

/-- A key in the plainest way. Keys are written on one line. -/
def keyOf (cs : List Char) : List Char :=
  let control := cs.any isControl || cs.contains '\n'
  if !cs.isEmpty && cs.all isBare then cs
  else if !control && !cs.contains '\\' && !cs.contains '"' then
    '"' :: (cs.flatMap escapeChar ++ ['"'])
  else if !control && !cs.contains '\'' then '\'' :: (cs ++ ['\''])
  else '"' :: (cs.flatMap escapeChar ++ ['"'])

end TelescopeLink.Toml
