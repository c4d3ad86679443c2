/-!
# Blanks and words

A blank is a character of the Unicode property White_Space. Texts of the far end are taken apart at
blanks, whatever kind and number of them stand between two words, so a reader of replies never sees
spacing.

The words of a text are the maximal runs of other characters: `words` cuts at every blank (`pieces`)
and drops the empty pieces.
-/

namespace TelescopeLink.Text

/-- Property White_Space of Unicode. -/
def isBlank (c : Char) : Bool :=
  let n := c.toNat
  (9 ≤ n && n ≤ 13) || n == 0x20 || n == 0x85 || n == 0xA0 || n == 0x1680 ||
    (0x2000 ≤ n && n ≤ 0x200A) || n == 0x2028 || n == 0x2029 || n == 0x202F || n == 0x205F ||
    n == 0x3000

/-- The text from its first character that is no blank. -/
def trimStart (cs : List Char) : List Char := cs.dropWhile isBlank

/-- The text up to its last character that is no blank. -/
def trimEnd (cs : List Char) : List Char := (cs.reverse.dropWhile isBlank).reverse

/-- The text without the blanks at its two ends. -/
def trim (cs : List Char) : List Char := trimEnd (trimStart cs)

/-- The stretches of a text between its blanks, empty ones included. -/
def pieces : List Char → List (List Char)
  | [] => [[]]
  | c :: rest =>
    if isBlank c then [] :: pieces rest
    else
      match pieces rest with
      | [] => [[c]]
      | piece :: more => (c :: piece) :: more

/-- The words of a text, in order. -/
def words (cs : List Char) : List (List Char) := (pieces cs).filter (!·.isEmpty)

/-- Words written with one space between neighbours. -/
def unwords : List (List Char) → List Char
  | [] => []
  | [word] => word
  | word :: next :: more => word ++ ' ' :: unwords (next :: more)

theorem pieces_ne_nil (cs : List Char) : pieces cs ≠ [] := by
  cases cs with
  | nil => simp [pieces]
  | cons c rest =>
    simp only [pieces]
    split
    · simp
    · split <;> simp

@[simp] theorem pieces_cons_blank {c : Char} (h : isBlank c = true) (rest : List Char) :
    pieces (c :: rest) = [] :: pieces rest := by
  simp [pieces, h]

@[simp] theorem words_nil : words [] = [] := rfl

theorem words_cons_blank {c : Char} (h : isBlank c = true) (rest : List Char) :
    words (c :: rest) = words rest := by
  simp [words, h]

end TelescopeLink.Text
