import TelescopeLink.Text.CaseData

/-!
# Upper and lower case

Full case mapping, in which one character may become several. A capital sigma becomes a final sigma
at the end of a word and a plain one elsewhere: it ends a word when a cased character stands before
it and none after it, where characters that have no say in case are passed over on both sides.
-/

namespace TelescopeLink.Text

/-- The code lies in one of the ranges. -/
def inRanges (ranges : List (Nat × Nat)) (n : Nat) : Bool :=
  ranges.any fun range => decide (range.1 ≤ n) && decide (n ≤ range.2)

/-- Property Cased. -/
def isCased (c : Char) : Bool := inRanges casedRanges c.toNat

/-- Property Case_Ignorable. -/
def isCaseIgnorable (c : Char) : Bool := inRanges caseIgnorableRanges c.toNat

/-- What a case mapping given by sequences and runs makes of one character. -/
def mapCase (sequences : List (Nat × List Nat)) (runs : List CaseRun) (c : Char) : List Char :=
  match sequences.lookup c.toNat with
  | some codes => codes.map Char.ofNat
  | none =>
    match runs.find? (·.covers c.toNat) with
    | some run => [Char.ofNat (run.image c.toNat)]
    | none => [c]

/-- The upper case of a character. -/
def upperChar : Char → List Char := mapCase upperSequences upperRuns

/-- The lower case of a character, whatever stands beside it. -/
def lowerChar : Char → List Char := mapCase lowerSequences lowerRuns

/-- The text in upper case. -/
def upper (cs : List Char) : List Char := cs.flatMap upperChar

/-- Reading on, the first character that has a say in case is a cased one. -/
def meetsCased (cs : List Char) : Bool :=
  match cs.dropWhile isCaseIgnorable with
  | c :: _ => isCased c
  | [] => false

/-- The text in lower case, where `before` holds what precedes it, last character first. -/
def lowerAfter (before : List Char) : List Char → List Char
  | [] => []
  | c :: rest =>
    (if c = 'Σ' then [if meetsCased before && !meetsCased rest then 'ς' else 'σ']
      else lowerChar c) ++ lowerAfter (c :: before) rest

/-- The text in lower case. -/
def lower (cs : List Char) : List Char := lowerAfter [] cs

/-- The same text up to the case of the letters A to Z. -/
def equalIgnoringAsciiCase (a b : List Char) : Bool := a.map Char.toLower == b.map Char.toLower

end TelescopeLink.Text
