import Mathlib.Data.List.TakeWhile
import TelescopeLink.Toml.Text

/-!
# Texts and keys survive as TOML

Whatever way of writing is chosen for a text, its reader gives the text back (`readText_textOf`),
and so it is for a key (`readSimpleKey_keyOf`). The writers choose by what the characters are and
how the quotes stand, so each way has a lemma of its own, under the condition that it is chosen for:

* escapes undo themselves one character at a time, between one double quote (`readBasic_escapeChar`)
  and between three (`readLongBasic_escapeChar`);
* three quotes in a row end a text. Between single quotes there are never three, because that way is
  not taken then; between double quotes every third is escaped. In both a text may end with one or
  two quotes of the kind that ends it, which `closing` gives back.
-/

namespace TelescopeLink.Toml

open TelescopeLink.Text

/-! ### Characters -/

@[simp] theorem prepend_some (c : Char) (cs rest : List Char) :
    prepend c (some (cs, rest)) = some (c :: cs, rest) := rfl

/-- A code in four digits is that of its character. -/
theorem codeChar?_of_lt : ∀ n < 0x80,
    codeChar? ['0', '0', hexDigit (n / 16), hexDigit (n % 16)] = some (Char.ofNat n) := by
  decide +kernel

/-- Control characters have codes that short. -/
theorem codeChar?_of_isControl {c : Char} (h : isControl c = true) :
    codeChar? ['0', '0', hexDigit (c.toNat / 16), hexDigit (c.toNat % 16)] = some c := by
  have hlow : c.toNat < 0x80 := by
    simp only [isControl, Bool.or_eq_true, Bool.and_eq_true, decide_eq_true_eq, beq_iff_eq] at h
    omega
  rw [codeChar?_of_lt _ hlow, Char.ofNat_toNat]

/-- The control characters, tab and line break apart, are all there is below the blank. -/
theorem bounds_of_not_isControl {c : Char} (h : isControl c = false) (htab : c ≠ '\t')
    (hbreak : c ≠ '\n') : 0x20 ≤ c.toNat ∧ c.toNat ≠ 0x7F := by
  simp only [isControl, Bool.or_eq_false_iff, Bool.and_eq_false_iff, decide_eq_false_iff_not,
    bne_eq_false_iff_eq, htab, hbreak, or_false, beq_eq_false_iff_ne] at h
  exact ⟨Nat.not_lt.mp h.1, h.2⟩

/-- What is neither control nor quote nor backslash stands for itself between double quotes. -/
theorem isBasic_of_not_isControl {c : Char} (h : isControl c = false) (hbreak : c ≠ '\n')
    (hquote : c ≠ '"') (hslash : c ≠ '\\') : isBasic c = true := by
  by_cases htab : c = '\t'
  · simp [isBasic, htab]
  · have hbounds := bounds_of_not_isControl h htab hbreak
    simp [isBasic, hbounds, hquote, hslash]

/-- Between single quotes a backslash stands for itself as well. -/
theorem isLiteral_of_not_isControl {c : Char} (h : isControl c = false) (hbreak : c ≠ '\n')
    (hquote : c ≠ '\'') : isLiteral c = true := by
  by_cases htab : c = '\t'
  · simp [isLiteral, htab]
  · have hbounds := bounds_of_not_isControl h htab hbreak
    simp [isLiteral, hbounds, hquote]

/-- The characters of a line without control characters and single quotes may stand between them. -/
theorem isLiteral_of_mem {cs : List Char} (hcontrol : cs.any isControl = false)
    (hbreak : cs.contains '\n' = false) (hquote : '\'' ∉ cs) : ∀ c ∈ cs, isLiteral c = true := by
  intro c hc
  refine isLiteral_of_not_isControl ?_ ?_ ?_
  · exact Bool.eq_false_iff.mpr (List.any_eq_false.mp hcontrol c hc)
  · rintro rfl
    simp [hc] at hbreak
  · rintro rfl
    exact hquote hc

/-- The ways in which a character is written between double quotes. -/
inductive Escapes (c : Char) : List Char → Prop
  | short {e : Char} (h : shortEscape? e = some c) : Escapes c ['\\', e]
  | code {h₁ h₂ : Char} (h : codeChar? ['0', '0', h₁, h₂] = some c) :
    Escapes c ['\\', 'u', '0', '0', h₁, h₂]
  | self (h : isBasic c = true) : Escapes c [c]

/-- However a character is written, it is one of these ways. -/
theorem escapes_escapeChar (c : Char) : Escapes c (escapeChar c) := by
  unfold escapeChar
  split_ifs with hb ht hn hf hr hquote hslash hcontrol
  case pos => exact .short (by simp [hb, shortEscape?])
  case pos => exact .short (by simp [ht, shortEscape?])
  case pos => exact .short (by simp [hn, shortEscape?])
  case pos => exact .short (by simp [hf, shortEscape?])
  case pos => exact .short (by simp [hr, shortEscape?])
  case pos => exact .short (by simp [hquote, shortEscape?])
  case pos => exact .short (by simp [hslash, shortEscape?])
  case pos => exact .code (codeChar?_of_isControl hcontrol)
  case neg =>
    exact .self (isBasic_of_not_isControl (Bool.eq_false_iff.mpr hcontrol) hn hquote hslash)

/-- No way of writing a character begins with a quote or a line break. -/
theorem escapeChar_eq_cons (c : Char) :
    ∃ d ds, escapeChar c = d :: ds ∧ d ≠ '"' ∧ d ≠ '\n' ∧ d ≠ '\r' := by
  have hescapes := escapes_escapeChar c
  generalize escapeChar c = written at hescapes ⊢
  cases hescapes with
  | short _ => exact ⟨'\\', _, rfl, by decide⟩
  | code _ => exact ⟨'\\', _, rfl, by decide⟩
  | self h =>
    refine ⟨c, [], rfl, ?_, ?_, ?_⟩
    all_goals rintro rfl; exact absurd h (by decide)

/-- The letters that announce a code are no short escapes. -/
theorem ne_of_shortEscape? {e c : Char} (h : shortEscape? e = some c) : e ≠ 'u' ∧ e ≠ 'U' := by
  constructor
  · rintro rfl
    simp [shortEscape?] at h
  · rintro rfl
    simp [shortEscape?] at h

/-! ### Between double quotes -/

@[simp] theorem readBasic_quote (rest : List Char) : readBasic ('"' :: rest) = some ([], rest) := by
  unfold readBasic
  rw [if_pos rfl]

theorem readBasic_of_isBasic {c : Char} (h : isBasic c = true) (rest : List Char) :
    readBasic (c :: rest) = prepend c (readBasic rest) := by
  have hquote : c ≠ '"' := by rintro rfl; exact absurd h (by decide)
  have hslash : c ≠ '\\' := by rintro rfl; exact absurd h (by decide)
  rw [readBasic.eq_def]
  simp only [if_neg hquote, if_neg hslash, if_pos h]

theorem readBasic_shortEscape {e c : Char} (h : shortEscape? e = some c) (rest : List Char) :
    readBasic ('\\' :: e :: rest) = prepend c (readBasic rest) := by
  obtain ⟨hu, hU⟩ := ne_of_shortEscape? h
  rw [readBasic.eq_def]
  simp [hu, hU, h]

/-- A character is read back between double quotes. -/
theorem readBasic_escapeChar (c : Char) (rest : List Char) :
    readBasic (escapeChar c ++ rest) = prepend c (readBasic rest) := by
  have hescapes := escapes_escapeChar c
  generalize escapeChar c = written at hescapes ⊢
  cases hescapes with
  | short h => exact readBasic_shortEscape h rest
  | code h => simp [readBasic, h]
  | self h => exact readBasic_of_isBasic h rest

/-- So is a text, up to the closing quote. -/
theorem readBasic_escaped (cs rest : List Char) :
    readBasic (cs.flatMap escapeChar ++ '"' :: rest) = some (cs, rest) := by
  induction cs with
  | nil => simp
  | cons c cs ih =>
    rw [List.flatMap_cons, List.append_assoc, readBasic_escapeChar, ih, prepend_some]

/-! ### Between single quotes -/

/-- Between single quotes a text is read as it stands. -/
theorem readLiteral_append {cs : List Char} (h : ∀ c ∈ cs, isLiteral c = true) (rest : List Char) :
    readLiteral (cs ++ '\'' :: rest) = some (cs, rest) := by
  induction cs with
  | nil => simp [readLiteral]
  | cons c cs ih =>
    have hc := h c List.mem_cons_self
    have hquote : c ≠ '\'' := by rintro rfl; exact absurd hc (by decide)
    rw [List.cons_append, readLiteral, if_neg hquote, if_pos hc,
      ih fun d hd => h d (List.mem_cons_of_mem c hd), prepend_some]

/-! ### Quotes in a row -/

/-- The longest row only grows along the text. -/
theorem le_longestRun (quote : Char) (current best : Nat) (cs : List Char) :
    max current best ≤ longestRun quote current best cs := by
  induction cs generalizing current best with
  | nil => exact Nat.le_refl _
  | cons c cs ih =>
    rw [longestRun]
    split_ifs with hc
    · have := ih (current + 1) best
      omega
    · have := ih 0 (max current best)
      omega

/-- A quote is a row of at least one. -/
theorem longestRun_pos {quote : Char} {cs : List Char} (h : quote ∈ cs) (current best : Nat) :
    0 < longestRun quote current best cs := by
  induction cs generalizing current best with
  | nil => cases h
  | cons c cs ih =>
    rw [longestRun]
    split_ifs with hc
    · have := le_longestRun quote (current + 1) best cs
      omega
    · exact ih (List.mem_of_ne_of_mem (Ne.symm hc) h) 0 (max current best)

@[simp] theorem closing_break (quote : Char) (h : quote ≠ '\n') (rest : List Char) :
    closing quote ('\n' :: rest) = ([], '\n' :: rest) := by
  simp [closing, Ne.symm h]

/-! ### Between three single quotes -/

@[simp] theorem readLongLiteral_quotes (rest : List Char) :
    readLongLiteral ('\'' :: '\'' :: '\'' :: rest) = some (closing '\'' rest) := by
  simp [readLongLiteral]

theorem readLongLiteral_quote {rest : List Char} (h : ∀ more, rest ≠ '\'' :: '\'' :: more) :
    readLongLiteral ('\'' :: rest) = prepend '\'' (readLongLiteral rest) := by
  rw [readLongLiteral.eq_def]
  simp

theorem readLongLiteral_of_isLiteral {c : Char} (h : c = '\n' ∨ isLiteral c = true)
    (rest : List Char) : readLongLiteral (c :: rest) = prepend c (readLongLiteral rest) := by
  have hreturn : c ≠ '\r' := by rintro rfl; exact absurd h (by decide)
  have hquote : c ≠ '\'' := by rintro rfl; exact absurd h (by decide)
  rw [readLongLiteral.eq_def]
  simp [hreturn, hquote, h]

/-- Without three quotes in a row, the first three end the text. -/
theorem readLongLiteral_append {cs : List Char} {current best : Nat}
    (hrun : longestRun '\'' current best cs ≤ 2) (h : cs.any isControl = false)
    (rest : List Char) :
    readLongLiteral (cs ++ '\'' :: '\'' :: '\'' :: '\n' :: rest) = some (cs, '\n' :: rest) := by
  -- The row of quotes counted so far is at most two, so the text does not end too early.
  induction cs generalizing current best with
  | nil => simp
  | cons c cs ih =>
    simp only [List.any_cons, Bool.or_eq_false_iff] at h
    obtain ⟨hc, hcs⟩ := h
    rw [longestRun] at hrun
    by_cases hquote : c = '\''
    · subst hquote
      rw [if_pos rfl] at hrun
      have hnext := ih hrun hcs
      -- The text may end here, or one quote further; both times `closing` gives back its quotes.
      match cs with
      | [] => simp [closing]
      | d :: ds =>
        by_cases hd : d = '\''
        · subst hd
          match ds with
          | [] => simp [closing]
          | e :: es =>
            by_cases he : e = '\''
            · subst he
              have := le_longestRun '\'' (current + 1 + 1 + 1) best es
              simp only [longestRun, if_true] at hrun
              omega
            · rw [List.cons_append, readLongLiteral_quote (by simp [he]), hnext, prepend_some]
        · rw [List.cons_append, readLongLiteral_quote (by simp [hd]), hnext, prepend_some]
    · rw [if_neg hquote] at hrun
      have hself : c = '\n' ∨ isLiteral c = true := by
        by_cases hbreak : c = '\n'
        · exact .inl hbreak
        · exact .inr (isLiteral_of_not_isControl hc hbreak hquote)
      rw [List.cons_append, readLongLiteral_of_isLiteral hself, ih hrun hcs, prepend_some]

/-! ### Between three double quotes -/

@[simp] theorem readLongBasic_quotes (rest : List Char) :
    readLongBasic false ('"' :: '"' :: '"' :: rest) = some (closing '"' rest) := by
  simp [readLongBasic]

theorem readLongBasic_quote {rest : List Char} (h : ∀ more, rest ≠ '"' :: '"' :: more) :
    readLongBasic false ('"' :: rest) = prepend '"' (readLongBasic false rest) := by
  rw [readLongBasic.eq_def]
  simp

theorem readLongBasic_of_isBasic {c : Char} (h : c = '\n' ∨ isBasic c = true)
    (rest : List Char) :
    readLongBasic false (c :: rest) = prepend c (readLongBasic false rest) := by
  have hreturn : c ≠ '\r' := by rintro rfl; exact absurd h (by decide)
  have hquote : c ≠ '"' := by rintro rfl; exact absurd h (by decide)
  have hslash : c ≠ '\\' := by rintro rfl; exact absurd h (by decide)
  rw [readLongBasic.eq_def]
  simp [hreturn, hquote, hslash, h]

theorem readLongBasic_shortEscape {e c : Char} (h : shortEscape? e = some c) (rest : List Char) :
    readLongBasic false ('\\' :: e :: rest) = prepend c (readLongBasic false rest) := by
  obtain ⟨hu, hU⟩ := ne_of_shortEscape? h
  rw [readLongBasic.eq_def]
  simp [hu, hU, h]

/-- A character is read back between three double quotes, in the same ways as between one. -/
theorem readLongBasic_escapeChar (c : Char) (rest : List Char) :
    readLongBasic false (escapeChar c ++ rest) = prepend c (readLongBasic false rest) := by
  have hescapes := escapes_escapeChar c
  generalize escapeChar c = written at hescapes ⊢
  cases hescapes with
  | short h => exact readLongBasic_shortEscape h rest
  | code h => simp [readLongBasic, h]
  | self h => exact readLongBasic_of_isBasic (.inr h) rest

/-- Only a quote that is not the third in a row is written as a quote. -/
theorem escapeLong_eq_cons {quotes : Nat} {c : Char} (h : c ≠ '"' ∨ quotes = 2) (cs : List Char) :
    ∃ d ds, escapeLong quotes (c :: cs) = d :: ds ∧ d ≠ '"' := by
  rw [escapeLong]
  split_ifs with hbreak hquote htwo
  · exact ⟨'\n', _, rfl, by decide⟩
  · exact ⟨'\\', _, rfl, by decide⟩
  · simp [hquote, htwo] at h
  · obtain ⟨d, ds, hds, hd, -⟩ := escapeChar_eq_cons c
    exact ⟨d, ds ++ escapeLong 0 cs, by rw [hds, List.cons_append], hd⟩

/-- Behind a quote that is written as one, no two more follow unless the text ends there. -/
theorem escapeLong_append_ne {quotes : Nat} (hpos : 0 < quotes) (hquotes : quotes ≤ 2) {c : Char}
    {cs : List Char} (hend : ¬(c = '"' ∧ quotes = 1 ∧ cs = [])) (rest more : List Char) :
    escapeLong quotes (c :: cs) ++ rest ≠ '"' :: '"' :: more := by
  by_cases hopen : c ≠ '"' ∨ quotes = 2
  · obtain ⟨d, ds, hds, hd⟩ := escapeLong_eq_cons hopen cs
    simp [hds, hd]
  · obtain ⟨rfl, hone⟩ : c = '"' ∧ quotes = 1 := by
      simp only [not_or, ne_eq, Decidable.not_not] at hopen
      exact ⟨hopen.1, by omega⟩
    match cs with
    | [] => exact absurd ⟨rfl, hone, rfl⟩ hend
    | d :: ds =>
      -- Two quotes stand as such, and a third would be escaped.
      obtain ⟨e, es, hes, he⟩ := escapeLong_eq_cons (.inr rfl) (c := d) ds
      simp [escapeLong.eq_2, hone, hes, he]

/-- However many quotes stand in a row, the first three that are not escaped end the text. -/
theorem readLongBasic_escapeLong (cs : List Char) {quotes : Nat} (hquotes : quotes ≤ 2)
    (rest : List Char) :
    readLongBasic false (escapeLong quotes cs ++ '"' :: '"' :: '"' :: '\n' :: rest) =
      some (cs, '\n' :: rest) := by
  -- The quotes just before are counted, and the third of them is escaped.
  induction cs generalizing quotes with
  | nil => simp [escapeLong]
  | cons c cs ih =>
    rw [escapeLong]
    split_ifs with hbreak hquote htwo
    · rw [hbreak, List.cons_append, readLongBasic_of_isBasic (.inl rfl), ih (by omega),
        prepend_some]
    · have hescape : shortEscape? '"' = some '"' := by decide
      rw [hquote, List.cons_append, List.cons_append, readLongBasic_shortEscape hescape,
        ih (by omega), prepend_some]
    · subst hquote
      have hnext := ih (show quotes + 1 ≤ 2 by omega)
      match cs with
      | [] => simp [escapeLong, closing]
      | d :: ds =>
        by_cases hend : d = '"' ∧ quotes = 0 ∧ ds = []
        · obtain ⟨rfl, rfl, rfl⟩ := hend
          simp [escapeLong, closing]
        · -- Of the next two characters one is no quote.
          have hopen : ¬(d = '"' ∧ quotes + 1 = 1 ∧ ds = []) := by simpa using hend
          rw [List.cons_append, readLongBasic_quote
            (escapeLong_append_ne (by omega) (by omega) hopen _), hnext, prepend_some]
    · rw [List.append_assoc, readLongBasic_escapeChar, ih (by omega), prepend_some]

/-! ### Texts -/

/-- Without any row of them there are no quotes. -/
theorem not_mem_of_longestRun_eq_zero {quote : Char} {cs : List Char}
    (h : longestRun quote 0 0 cs = 0) : quote ∉ cs := by
  intro hmem
  have := longestRun_pos hmem 0 0
  omega

/-- The reader of a whole text looks at the quotes it begins with; an empty text has two, which are
no three. -/
theorem readText_basic (cs rest : List Char) :
    readText ('"' :: (cs.flatMap escapeChar ++ '"' :: '\n' :: rest)) = some (cs, '\n' :: rest) := by
  match cs with
  | [] => simp [readText]
  | c :: cs =>
    obtain ⟨d, ds, hds, hd, -⟩ := escapeChar_eq_cons c
    have hread := readBasic_escaped (c :: cs) ('\n' :: rest)
    simp only [List.flatMap_cons, hds, List.cons_append, List.append_assoc] at hread ⊢
    simp [readText, hd, hread]

/-- A text that is written between single quotes. -/
theorem readText_literal {cs : List Char} (h : ∀ c ∈ cs, isLiteral c = true) (rest : List Char) :
    readText ('\'' :: (cs ++ '\'' :: '\n' :: rest)) = some (cs, '\n' :: rest) := by
  match cs with
  | [] => simp [readText, readLiteral]
  | c :: cs =>
    have hc : c ≠ '\'' := by
      rintro rfl
      exact absurd (h '\'' List.mem_cons_self) (by decide)
    have hread := readLiteral_append h ('\n' :: rest)
    rw [List.cons_append] at hread ⊢
    simp [readText, hc, hread]

/-- The line break that a text of several lines is written with in front is not part of it. -/
theorem dropLineBreak_append {lines : Bool} {body : List Char}
    (h : lines = false → ∀ c ∈ body.head?, c ≠ '\n' ∧ c ≠ '\r') :
    dropLineBreak ((if lines then ['\n'] else []) ++ body) = body := by
  cases lines with
  | true => rfl
  | false =>
    match body with
    | [] => rfl
    | c :: cs =>
      obtain ⟨hbreak, hreturn⟩ := h rfl c rfl
      simp [dropLineBreak, hbreak, hreturn]

/-- A text that is written between three double quotes, on lines of its own if it has several. -/
theorem readText_long (cs rest : List Char) :
    readText ('"' :: '"' :: '"' :: ((if cs.contains '\n' then ['\n'] else []) ++
      (escapeLong 0 cs ++ '"' :: '"' :: '"' :: '\n' :: rest))) = some (cs, '\n' :: rest) := by
  have hstart : cs.contains '\n' = false →
      ∀ c ∈ (escapeLong 0 cs ++ '"' :: '"' :: '"' :: '\n' :: rest).head?, c ≠ '\n' ∧ c ≠ '\r' := by
    intro hlines
    match cs with
    | [] => simp [escapeLong]
    | c :: cs =>
      have hbreak : c ≠ '\n' := by
        rintro rfl
        simp at hlines
      obtain ⟨d, ds, hds, -, hd⟩ := escapeChar_eq_cons c
      rw [escapeLong, if_neg hbreak]
      split_ifs with hquote htwo
      · simp at htwo
      · simp
      · simpa [hds] using hd
  rw [readText, dropLineBreak_append hstart, readLongBasic_escapeLong cs (by omega)]

/-- The same between three single quotes, if there are not three of them in a row. -/
theorem readText_longLiteral {cs : List Char} (hrun : longestRun '\'' 0 0 cs ≤ 2)
    (h : cs.any isControl = false) (rest : List Char) :
    readText ('\'' :: '\'' :: '\'' :: ((if cs.contains '\n' then ['\n'] else []) ++
      (cs ++ '\'' :: '\'' :: '\'' :: '\n' :: rest))) = some (cs, '\n' :: rest) := by
  have hstart : cs.contains '\n' = false →
      ∀ c ∈ (cs ++ '\'' :: '\'' :: '\'' :: '\n' :: rest).head?, c ≠ '\n' ∧ c ≠ '\r' := by
    intro hlines
    match cs with
    | [] => simp
    | c :: cs =>
      have hbreak : c ≠ '\n' := by
        rintro rfl
        simp at hlines
      have hreturn : c ≠ '\r' := by
        rintro rfl
        simp [isControl] at h
      simp [hbreak, hreturn]
  rw [readText, dropLineBreak_append hstart, readLongLiteral_append hrun h]

/-- Whichever way a text is written, it is read back. -/
theorem readText_textOf (cs rest : List Char) :
    readText (textOf cs ++ '\n' :: rest) = some (cs, '\n' :: rest) := by
  have hlong := readText_long cs rest
  simp only [textOf]
  -- Whether the text begins on the next line makes no difference for the choice.
  generalize hstart : (if cs.contains '\n' then ['\n'] else []) = start at hlong ⊢
  split_ifs with hbasic hliteral hdoubles hsingles hlines
  · simpa using readText_basic cs rest
  · simp only [Bool.and_eq_true, decide_eq_true_eq, Bool.not_eq_true'] at hliteral
    obtain ⟨⟨hquotes, hcontrol⟩, hbreak⟩ := hliteral
    have hself := isLiteral_of_mem hcontrol hbreak (not_mem_of_longestRun_eq_zero hquotes)
    simpa using readText_literal hself rest
  · simpa using hlong
  · simp only [Bool.and_eq_true, decide_eq_true_eq, Bool.not_eq_true'] at hsingles
    have hread := readText_longLiteral hsingles.1 hsingles.2 rest
    rw [hstart] at hread
    simpa using hread
  · simpa using hlong
  · simpa using readText_basic cs rest

/-- A text begins with a quote of either kind. -/
theorem textOf_eq_cons (cs : List Char) :
    ∃ c rest, textOf cs = c :: rest ∧ (c = '"' ∨ c = '\'') := by
  simp only [textOf]
  generalize (if cs.contains '\n' then ['\n'] else []) = start
  split_ifs
  all_goals simp

/-! ### Keys -/

/-- A key without quotes ends where the first other character stands. -/
theorem readSimpleKey_bare {cs : List Char} (hne : cs ≠ []) (h : ∀ c ∈ cs, isBare c = true)
    {d : Char} (hd : isBare d = false) (rest : List Char) :
    readSimpleKey (cs ++ d :: rest) = some (cs, d :: rest) := by
  obtain ⟨c, cs, rfl⟩ := List.exists_cons_of_ne_nil hne
  have hc := h c List.mem_cons_self
  have hdouble : c ≠ '"' := by rintro rfl; exact absurd hc (by decide)
  have hsingle : c ≠ '\'' := by rintro rfl; exact absurd hc (by decide)
  have htake : (c :: cs ++ d :: rest).takeWhile isBare = c :: cs := by
    rw [List.takeWhile_append_of_pos h, List.takeWhile_cons_of_neg (by simp [hd]), List.append_nil]
  have hdrop : (c :: cs ++ d :: rest).dropWhile isBare = d :: rest := by
    rw [List.dropWhile_append_of_pos h, List.dropWhile_cons_of_neg (by simp [hd])]
  rw [readSimpleKey, htake, hdrop]
  · simp
  · simp [hdouble]
  · simp [hsingle]

/-- Whichever way a key is written, it is read back, whatever stands behind it that could not go on
in it. -/
theorem readSimpleKey_keyOf (cs : List Char) {d : Char} (hd : isBare d = false)
    (rest : List Char) : readSimpleKey (keyOf cs ++ d :: rest) = some (cs, d :: rest) := by
  have hbasic : readSimpleKey ('"' :: (cs.flatMap escapeChar ++ ['"']) ++ d :: rest) =
      some (cs, d :: rest) := by
    simpa [readSimpleKey] using readBasic_escaped cs (d :: rest)
  simp only [keyOf]
  split_ifs with hbare hdouble hsingle
  · simp only [Bool.and_eq_true, Bool.not_eq_true', List.isEmpty_eq_false_iff,
      List.all_eq_true] at hbare
    exact readSimpleKey_bare hbare.1 hbare.2 hd rest
  · exact hbasic
  · simp only [Bool.and_eq_true, Bool.not_eq_true', Bool.or_eq_false_iff] at hsingle
    obtain ⟨⟨hcontrol, hbreak⟩, hquote⟩ := hsingle
    have hself := isLiteral_of_mem hcontrol hbreak (by simpa using hquote)
    simpa [readSimpleKey] using readLiteral_append hself (d :: rest)
  · exact hbasic

/-- A key begins with one of its characters or with a quote. -/
theorem keyOf_eq_cons (cs : List Char) :
    ∃ c rest, keyOf cs = c :: rest ∧ (isBare c = true ∨ c = '"' ∨ c = '\'') := by
  simp only [keyOf]
  split_ifs with hbare
  · match cs with
    | [] => simp at hbare
    | c :: cs =>
      simp only [List.all_cons, Bool.and_eq_true] at hbare
      exact ⟨c, cs, rfl, .inl hbare.2.1⟩
  all_goals simp

end TelescopeLink.Toml
