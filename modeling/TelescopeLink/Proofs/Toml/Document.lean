import Mathlib.Data.List.Forall2
import TelescopeLink.Proofs.Toml.Number
import TelescopeLink.Toml.Document

/-!
# Documents survive as TOML

What is written line by line is read line by line. A text `Spells` statements if reading it gives
them, whatever bound on the lines is allowed; each way of writing a line puts its statement in
front, so a document is followed from its last line to its first.
-/

namespace TelescopeLink.Toml

/-! ### Between marks -/

@[simp] theorem skipSpaces_cons {c : Char} (h : isSpace c = false) (cs : List Char) :
    skipSpaces (c :: cs) = c :: cs := by
  rw [skipSpaces, List.dropWhile_cons_of_neg (by simp [h])]

@[simp] theorem readLineEnd_break (cs : List Char) : readLineEnd ('\n' :: cs) = some cs := rfl

/-! ### Keys -/

/-- A dotted key. -/
def dotted : List String → List Char
  | [] => []
  | [key] => keyOf key.toList
  | key :: more => keyOf key.toList ++ '.' :: dotted more

/-- No space stands in a key without quotes. -/
theorem isSpace_of_isBare {c : Char} (h : isBare c = true) : isSpace c = false := by
  by_contra hspace
  simp only [isSpace, Bool.not_eq_false, Bool.or_eq_true, beq_iff_eq] at hspace
  rcases hspace with rfl | rfl <;> exact absurd h (by decide)

/-- A key does not begin with what stands between statements, or with what begins a header. -/
theorem keyOf_append_eq_cons (cs rest : List Char) :
    ∃ c more, keyOf cs ++ rest = c :: more ∧ isSpace c = false ∧ c ≠ '[' ∧ c ≠ '#' ∧ c ≠ '\n' ∧
      c ≠ '\r' := by
  obtain ⟨c, more, hmore, hc⟩ := keyOf_eq_cons cs
  refine ⟨c, more ++ rest, by rw [hmore, List.cons_append], ?_⟩
  rcases hc with hbare | rfl | rfl
  · refine ⟨isSpace_of_isBare hbare, ?_, ?_, ?_, ?_⟩
    all_goals rintro rfl; exact absurd hbare (by decide)
  all_goals decide

/-- The reader of keys goes on behind a dot only, so it stops at any other mark. -/
theorem readKeyParts_dotted {parts : List String} (hne : parts ≠ []) {fuel : Nat}
    (hfuel : parts.length ≤ fuel) {d : Char} (hbare : isBare d = false) {rest : List Char}
    (hdot : ∀ more, skipSpaces (d :: rest) ≠ '.' :: more) :
    readKeyParts fuel (dotted parts ++ d :: rest) = some (parts, skipSpaces (d :: rest)) := by
  -- Part by part: behind a dot there is another, and at any other mark the reader stops.
  induction parts generalizing fuel with
  | nil => exact absurd rfl hne
  | cons key more ih =>
    obtain ⟨fuel, rfl⟩ : ∃ k, fuel = k + 1 := ⟨fuel - 1, by simp at hfuel; omega⟩
    have hskip (rest : List Char) : skipSpaces (keyOf key.toList ++ rest) =
        keyOf key.toList ++ rest := by
      obtain ⟨c, more, hmore, hc, -⟩ := keyOf_append_eq_cons key.toList rest
      rw [hmore, skipSpaces_cons hc]
    match more with
    | [] =>
      rw [dotted, readKeyParts, hskip, readSimpleKey_keyOf key.toList hbare]
      simp only [Option.bind_eq_bind, Option.bind_some, String.ofList_toList]
      rfl
    | next :: more =>
      have hnext := ih (List.cons_ne_nil _ _) (by simpa using hfuel)
      rw [dotted, List.append_assoc, readKeyParts, hskip, List.cons_append,
        readSimpleKey_keyOf key.toList (by decide)]
      · simp [hnext, skipSpaces_cons (show isSpace '.' = false by decide)]
      · exact List.cons_ne_nil next more

/-- The parts of a dotted key are the path and the key at its end. -/
theorem readKey_dotted (path : List String) (key : String) (hdepth : path.length + 1 < depthLimit)
    {d : Char} (hbare : isBare d = false) {rest : List Char}
    (hdot : ∀ more, skipSpaces (d :: rest) ≠ '.' :: more) :
    readKey (dotted (path ++ [key]) ++ d :: rest) = some ((path, key), skipSpaces (d :: rest)) := by
  have hlength : (path ++ [key]).length = path.length + 1 := by simp
  have hparts : readKeyParts depthLimit (dotted (path ++ [key]) ++ d :: rest) =
      some (path ++ [key], skipSpaces (d :: rest)) :=
    readKeyParts_dotted (by simp) (by omega) hbare hdot
  rw [readKey, hparts]
  simp [Nat.not_le.mpr hdepth]

/-- Nor does a dotted key begin with such a character. -/
theorem dotted_append_eq_cons {parts : List String} (hne : parts ≠ []) (rest : List Char) :
    ∃ c more, dotted parts ++ rest = c :: more ∧ isSpace c = false ∧ c ≠ '[' ∧ c ≠ '#' ∧ c ≠ '\n' ∧
      c ≠ '\r' := by
  match parts with
  | [] => exact absurd rfl hne
  | [key] => exact keyOf_append_eq_cons key.toList rest
  | key :: next :: more =>
    rw [dotted, List.append_assoc]
    · exact keyOf_append_eq_cons key.toList _
    · exact List.cons_ne_nil next more

/-! ### Values -/

/-- A value is written like this: what stands there is read back as the value, up to the end of the
line. -/
structure Written (cs : List Char) (value : Value) : Prop where
  begins : ∃ c more, cs = c :: more ∧ isSpace c = false
  read (fuel room : Nat) (rest : List Char) :
    readValue (fuel + 1) room (cs ++ '\n' :: rest) = some (value, '\n' :: rest)

/-- A text is written with quotes, which tell it from all other values. -/
theorem Written.text (s : String) : Written (textOf s.toList) (.text s) := by
  obtain ⟨c, more, hmore, hc⟩ := textOf_eq_cons s.toList
  constructor
  · refine ⟨c, more, hmore, ?_⟩
    rcases hc with rfl | rfl <;> decide
  · intro fuel room rest
    have hread := readText_textOf s.toList rest
    rw [hmore, List.cons_append] at hread ⊢
    rw [readValue.eq_def]
    simp [hc, hread]

/-- A whole number begins like no other kind of value but numbers. -/
theorem Written.whole {n : Int} (h : Fits n) : Written (Text.intDigits n) (.whole n) := by
  obtain ⟨c, more, hmore, hc⟩ := Text.intDigits_eq_cons n
  have hne (d : Char) (hminus : d ≠ '-') (hdigit : d.isDigit = false) : c ≠ d := by
    rintro rfl
    simp [hminus, hdigit] at hc
  constructor
  · refine ⟨c, more, hmore, ?_⟩
    simp [isSpace, hne]
  · intro fuel room rest
    have hread := readNumber_intDigits h rest
    rw [hmore, List.cons_append] at hread ⊢
    rw [readValue.eq_def]
    simp [hne, hread]

/-- A line gives a key its value. -/
def Assigns (line : List Char) (pair : String × Value) : Prop :=
  ∃ text, Written text pair.2 ∧ line = keyOf pair.1.toList ++ ' ' :: '=' :: ' ' :: (text ++ ['\n'])

/-! ### Statements -/

/-- Reading a text gives statements. -/
def Spells (cs : List Char) (statements : List Statement) : Prop :=
  ∀ fuel, cs.length < fuel → readStatements fuel cs = some statements

namespace Spells

variable {cs : List Char} {statements : List Statement}

/-- An empty text says nothing. -/
theorem nil : Spells [] [] := by
  intro fuel hfuel
  obtain ⟨fuel, rfl⟩ : ∃ k, fuel = k + 1 := ⟨fuel - 1, by simp at hfuel; omega⟩
  rfl

/-- An empty line adds nothing. -/
theorem blank (h : Spells cs statements) : Spells ('\n' :: cs) statements := by
  intro fuel hfuel
  obtain ⟨fuel, rfl⟩ : ∃ k, fuel = k + 1 := ⟨fuel - 1, by simp at hfuel; omega⟩
  have hnext := h fuel (by simpa using hfuel)
  rw [readStatements, skipSpaces_cons (by decide)]
  simp [hnext]

/-- A line with a statement puts it in front of the statements of the lines behind it. -/
theorem cons {line : List Char} {statement : Statement} (h : Spells cs statements)
    (hread : readStatement line = some (statement, '\n' :: cs)) (hlength : cs.length < line.length)
    (hbegins : ∃ c more, line = c :: more ∧ isSpace c = false ∧ c ≠ '#' ∧ c ≠ '\n' ∧ c ≠ '\r') :
    Spells line (statement :: statements) := by
  obtain ⟨c, more, rfl, hspace, hcomment, hbreak, hreturn⟩ := hbegins
  intro fuel hfuel
  obtain ⟨fuel, rfl⟩ : ∃ k, fuel = k + 1 := ⟨fuel - 1, by omega⟩
  have hnext := h fuel (by omega)
  rw [readStatements, skipSpaces_cons hspace]
  simp [hcomment, hbreak, hreturn, hread, hnext]

/-- A line with a header in brackets. -/
theorem header {path : List String} {key : String} (hdepth : path.length + 1 < depthLimit)
    (h : Spells cs statements) :
    Spells ('[' :: (dotted (path ++ [key]) ++ ']' :: '\n' :: cs))
      (.header path key :: statements) := by
  refine h.cons ?_ (by simp; omega) ⟨'[', _, rfl, by decide⟩
  have hkey : readKey (dotted (path ++ [key]) ++ ']' :: '\n' :: cs) =
      some ((path, key), ']' :: '\n' :: cs) :=
    readKey_dotted path key hdepth (by decide) (by simp [skipSpaces, isSpace])
  have hne : path ++ [key] ≠ [] := by simp
  obtain ⟨c, more, hmore, -, hbracket, -⟩ := dotted_append_eq_cons hne (']' :: '\n' :: cs)
  rw [hmore] at hkey ⊢
  rw [readStatement, hkey]
  · rfl
  · simp [hbracket]

/-- A line with a key, its value and nothing else. -/
theorem assign (key : String) {text : List Char} {value : Value} (hvalue : Written text value)
    (h : Spells cs statements) :
    Spells (keyOf key.toList ++ ' ' :: '=' :: ' ' :: (text ++ '\n' :: cs))
      (.assign [] key value :: statements) := by
  obtain ⟨c, more, hmore, hspace, hbracket, hbegins⟩ :=
    keyOf_append_eq_cons key.toList (' ' :: '=' :: ' ' :: (text ++ '\n' :: cs))
  refine h.cons ?_ (by simp; omega) ⟨c, more, hmore, hspace, hbegins⟩
  have hkey : readKey (keyOf key.toList ++ ' ' :: '=' :: ' ' :: (text ++ '\n' :: cs)) =
      some (([], key), '=' :: ' ' :: (text ++ '\n' :: cs)) :=
    readKey_dotted [] key (by decide) (by decide) (by simp [skipSpaces, isSpace])
  have hskip : skipSpaces (' ' :: (text ++ '\n' :: cs)) = text ++ '\n' :: cs := by
    obtain ⟨d, ds, rfl, hd⟩ := hvalue.begins
    exact skipSpaces_cons hd (ds ++ '\n' :: cs)
  rw [hmore] at hkey ⊢
  rw [readStatement, hkey]
  · simp [readMark, hskip, hvalue.read]
  all_goals simp [hbracket]

/-- Assignments, one on each line. -/
theorem assigns {lines : List (List Char)} {pairs : List (String × Value)}
    (hlines : List.Forall₂ Assigns lines pairs) (h : Spells cs statements) :
    Spells (lines.flatten ++ cs)
      (pairs.map (fun pair => .assign [] pair.1 pair.2) ++ statements) := by
  induction hlines with
  | nil => exact h
  | @cons line pair lines pairs hline _ ih =>
    obtain ⟨text, hvalue, rfl⟩ := hline
    simpa using ih.assign pair.1 hvalue

/-- A header with the assignments that belong to it. -/
theorem below (path : List String) (key : String) (hdepth : path.length + 1 < depthLimit)
    {lines : List (List Char)} {pairs : List (String × Value)}
    (hlines : List.Forall₂ Assigns lines pairs) (h : Spells cs statements) :
    Spells ('[' :: (dotted (path ++ [key]) ++ ']' :: '\n' :: (lines.flatten ++ cs)))
      (.header path key :: (pairs.map (fun pair => .assign [] pair.1 pair.2) ++ statements)) :=
  (h.assigns hlines).header hdepth

end Spells

/-- Without a byte order mark in front, a document is what its text spells. -/
theorem parse_of_spells {cs : List Char} {statements : List Statement} (h : Spells cs statements)
    (hmark : ∀ more, cs ≠ '\uFEFF' :: more) : parse cs = build statements := by
  have hread := h (cs.length + 1) (Nat.lt_succ_self _)
  unfold parse
  simp [hread]

end TelescopeLink.Toml
