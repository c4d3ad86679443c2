import TelescopeLink.Dialect
import TelescopeLink.Proofs.Text.Blank
import TelescopeLink.Proofs.Text.Decimal

/-!
# What replies say

`Dialect.Says` gives the meaning of the words of a reply, one rule for each of the five ways in which
a reply can be made. The rules exclude each other and cover all words, so a reply is read as what its
words say (`statusOutcome_eq_iff`), and how its words are spaced and in which case its status word is
written makes no difference (`statusReply_reads_words`).

A code is any whole number of 32 bits but zero, in any of its texts. So the words of a failure decide
on its code alone, and with the timeout marker apart, which is looked for first, a reply has a code
beyond those of its reader exactly if it writes it (`code_reply_eq_iff`).
-/

namespace TelescopeLink

open Text

namespace Dialect

/-! ### Words and what they say -/

/-- The word is the status word of a success, in letters of either case. -/
def SaysOk (dialect : Dialect) (word : List Char) : Prop :=
  word.map Char.toLower = dialect.okWord.map Char.toLower

/-- The word is a status word of a failure, in letters of either case. -/
def SaysFail (dialect : Dialect) (word : List Char) : Prop :=
  ∃ fail ∈ dialect.failWords, word.map Char.toLower = fail.map Char.toLower

/-- What the words of a reply say. -/
inductive Says (dialect : Dialect) : List (List Char) → Outcome → Prop
  | nothing : Says dialect [] (.ok [])
  | success {first : List Char} {values : List (List Char)} (hfirst : dialect.SaysOk first) :
      Says dialect (first :: values) (.ok (values.map String.ofList))
  /-- A failure with a code of its own. -/
  | coded {first numeral : List Char} {rest : List (List Char)} {code : Int32}
      (hfirst : dialect.SaysFail first) (hnumeral : IsWhole numeral code.toInt) (hcode : code ≠ 0) :
      Says dialect (first :: numeral :: rest) (.failed code (String.ofList (unwords rest)))
  /-- A failure whose second word is no code. -/
  | uncoded {first : List Char} {rest : List (List Char)} (hfirst : dialect.SaysFail first)
      (hnone : ∀ numeral ∈ rest.head?, ∀ code : Int32, IsWhole numeral code.toInt → code = 0) :
      Says dialect (first :: rest)
        (.failed Outcome.farEndError (String.ofList (unwords rest)))
  /-- No status word, so all words are values. -/
  | values {first : List Char} {rest : List (List Char)} (hok : ¬dialect.SaysOk first)
      (hfail : ¬dialect.SaysFail first) :
      Says dialect (first :: rest) (.ok ((first :: rest).map String.ofList))

theorem equalIgnoringAsciiCase_iff {a b : List Char} :
    equalIgnoringAsciiCase a b = true ↔ a.map Char.toLower = b.map Char.toLower := by
  simp [equalIgnoringAsciiCase]

theorem any_failWords_iff {dialect : Dialect} {word : List Char} :
    dialect.failWords.any (equalIgnoringAsciiCase word) = true ↔ dialect.SaysFail word := by
  simp only [List.any_eq_true, equalIgnoringAsciiCase_iff]
  rfl

/-- No word says both. -/
theorem SaysFail.not_saysOk {dialect : Dialect} {word : List Char} (h : dialect.SaysFail word) :
    ¬dialect.SaysOk word := by
  obtain ⟨fail, hmem, hfail⟩ := h
  intro hok
  have hsame : fail.map Char.toLower = dialect.okWord.map Char.toLower := hfail.symm.trans hok
  have hapart : ∀ fail ∈ dialect.failWords,
      fail.map Char.toLower ≠ dialect.okWord.map Char.toLower := by
    cases dialect <;> decide
  exact hapart fail hmem hsame

/-! ### Reading words -/

/-- A code is taken from the words of a failure, and what is left is the message. -/
theorem failure_coded {numeral : List Char} {rest : List (List Char)} {code : Int32}
    (hnumeral : IsWhole numeral code.toInt) (hcode : code ≠ 0) :
    failure (numeral :: rest) = .failed code (String.ofList (unwords rest)) := by
  rw [failure, int32?_eq_some_iff.mpr hnumeral]
  exact if_neg hcode

/-- Else all of them are the message. A zero is no code, since it would be the one of a success. -/
theorem failure_uncoded {rest : List (List Char)}
    (hnone : ∀ numeral ∈ rest.head?, ∀ code : Int32, IsWhole numeral code.toInt → code = 0) :
    failure rest = .failed Outcome.farEndError (String.ofList (unwords rest)) := by
  cases rest with
  | nil => rfl
  | cons numeral rest =>
      rw [failure]
      cases hcode : int32? numeral with
      | none => rfl
      | some code =>
          have hzero : code = Outcome.okCode := hnone numeral rfl code (int32?_eq_some_iff.mp hcode)
          exact if_pos hzero

section StatusOutcome

variable {dialect : Dialect} {first : List Char} {rest : List (List Char)}

theorem statusOutcome_of_saysOk (h : dialect.SaysOk first) :
    dialect.statusOutcome (first :: rest) = .ok (rest.map String.ofList) :=
  if_pos (equalIgnoringAsciiCase_iff.mpr h)

theorem statusOutcome_of_saysFail (h : dialect.SaysFail first) :
    dialect.statusOutcome (first :: rest) = failure rest := by
  have hok : ¬equalIgnoringAsciiCase first dialect.okWord = true :=
    fun hok => h.not_saysOk (equalIgnoringAsciiCase_iff.mp hok)
  rw [statusOutcome, if_neg hok]
  exact if_pos (any_failWords_iff.mpr h)

theorem statusOutcome_of_neither (hok : ¬dialect.SaysOk first) (hfail : ¬dialect.SaysFail first) :
    dialect.statusOutcome (first :: rest) = .ok ((first :: rest).map String.ofList) := by
  rw [statusOutcome, if_neg (mt equalIgnoringAsciiCase_iff.mp hok)]
  exact if_neg (mt any_failWords_iff.mp hfail)

end StatusOutcome

/-- Words are read as something that they say. -/
theorem says_statusOutcome (dialect : Dialect) (tokens : List (List Char)) :
    dialect.Says tokens (dialect.statusOutcome tokens) := by
  cases tokens with
  | nil => exact .nothing
  | cons first rest =>
      by_cases hok : dialect.SaysOk first
      · rw [statusOutcome_of_saysOk hok]
        exact .success hok
      · by_cases hfail : dialect.SaysFail first
        · rw [statusOutcome_of_saysFail hfail]
          -- Of the second word it only matters whether there is one and whether it is a code.
          by_cases hcoded : ∃ numeral ∈ rest.head?, ∃ code : Int32,
              IsWhole numeral code.toInt ∧ code ≠ 0
          · obtain ⟨numeral, hhead, code, hnumeral, hcode⟩ := hcoded
            obtain ⟨rest, rfl⟩ := List.head?_eq_some_iff.mp hhead
            rw [failure_coded hnumeral hcode]
            exact .coded hfail hnumeral hcode
          · have hnone : ∀ numeral ∈ rest.head?, ∀ code : Int32,
                IsWhole numeral code.toInt → code = 0 := by
              intro numeral hhead code hnumeral
              by_contra hcode
              exact hcoded ⟨numeral, hhead, code, hnumeral, hcode⟩
            rw [failure_uncoded hnone]
            exact .uncoded hfail hnone
        · rw [statusOutcome_of_neither hok hfail]
          exact .values hok hfail

/-- **Words are read as what they say**, and they say one thing only. -/
theorem statusOutcome_eq_iff {dialect : Dialect} {tokens : List (List Char)} {outcome : Outcome} :
    dialect.statusOutcome tokens = outcome ↔ dialect.Says tokens outcome := by
  constructor
  · intro h
    exact h ▸ says_statusOutcome dialect tokens
  · intro h
    cases h with
    | nothing => rfl
    | success hfirst => exact statusOutcome_of_saysOk hfirst
    | coded hfirst hnumeral hcode =>
        rw [statusOutcome_of_saysFail hfirst, failure_coded hnumeral hcode]
    | uncoded hfirst hnone => rw [statusOutcome_of_saysFail hfirst, failure_uncoded hnone]
    | values hok hfail => exact statusOutcome_of_neither hok hfail

/-- How the words are spaced is forgotten at once. -/
theorem statusReply_of_writes {dialect : Dialect} {tokens : List (List Char)} {text : String}
    (h : Writes tokens text.toList) : dialect.statusReply text = dialect.statusOutcome tokens := by
  rw [statusReply, h.words_eq]

/-- **A reply is read as what its words say**, however they are spaced: in whatever text they are
written, the outcome is the one that they say, and so the same for all these texts. In particular a
failure comes back with the code that was written in decimal, for every code but zero, and with the
words behind it. -/
theorem statusReply_reads_words (dialect : Dialect) {tokens : List (List Char)} {text : String}
    (h : Writes tokens text.toList) :
    (∀ outcome, dialect.statusReply text = outcome ↔ dialect.Says tokens outcome) ∧
    (∀ text' : String, Writes tokens text'.toList →
      dialect.statusReply text' = dialect.statusReply text) ∧
    ∀ (first : List Char) (code : Int32) (rest : List (List Char)), dialect.SaysFail first →
      code ≠ 0 → tokens = first :: intDigits code.toInt :: rest →
        dialect.statusReply text = .failed code (String.ofList (unwords rest)) := by
  refine ⟨fun outcome => ?_, fun text' h' => ?_, fun first code rest hfirst hcode htokens => ?_⟩
  · rw [statusReply_of_writes h, statusOutcome_eq_iff]
  · rw [statusReply_of_writes h, statusReply_of_writes h']
  · rw [statusReply_of_writes h, statusOutcome_eq_iff, htokens]
    exact .coded hfirst (isWhole_intDigits _) hcode

/-- The least code of all, in mixed case and with blanks of many kinds. -/
theorem statusReply_reads_words_least_code :
    Writes ["ErrOr".toList, "-2147483648".toList, "axis".toList, "fault".toList]
        "\u3000ErrOr\t-2147483648 \u2003axis \r\nfault ".toList ∧
      Dialect.tcs.statusReply "\u3000ErrOr\t-2147483648 \u2003axis \r\nfault " =
        .failed (-2147483648) "axis fault" := by
  have hwrites : Writes ["ErrOr".toList, "-2147483648".toList, "axis".toList, "fault".toList]
      "\u3000ErrOr\t-2147483648 \u2003axis \r\nfault ".toList := writes_iff.mpr (by decide +kernel)
  have hfail : Dialect.tcs.SaysFail "ErrOr".toList := ⟨"ERROR".toList, by decide, by decide⟩
  have hcode : intDigits (-2147483648 : Int32).toInt = "-2147483648".toList := by decide +kernel
  have hmessage : String.ofList (unwords ["axis".toList, "fault".toList]) = "axis fault" := by
    decide +kernel
  refine ⟨hwrites, ?_⟩
  rw [← hmessage]
  exact (statusReply_reads_words .tcs hwrites).2.2 _ (-2147483648) _ hfail (by decide) (by rw [hcode])

/-! ### Codes -/

/-- The text begins with the timeout marker, up to blanks in front. -/
def IsTimeout (text : String) : Prop :=
  ∃ gap rest, IsGap gap ∧ text.toList = gap ++ (timeoutMarker ++ rest)

/-- The text is a failure in so many words, and gives a code. -/
def Cites (dialect : Dialect) (text : String) (code : Int32) : Prop :=
  ∃ first numeral rest, Writes (first :: numeral :: rest) text.toList ∧
    dialect.SaysFail first ∧ IsWhole numeral code.toInt

/-- Blanks in front of the marker are skipped, and it does not matter what stands behind it. -/
theorem isTimeoutReply_iff {text : String} : isTimeoutReply text = true ↔ IsTimeout text := by
  rw [isTimeoutReply, List.isPrefixOf_iff_prefix]
  constructor
  · intro h
    obtain ⟨rest, hrest⟩ := h
    refine ⟨text.toList.takeWhile isBlank, rest, isGap_takeWhile _, ?_⟩
    rw [hrest, trimStart, List.takeWhile_append_dropWhile]
  · intro h
    obtain ⟨gap, rest, hgap, htext⟩ := h
    have hmarker : ∀ c ∈ (timeoutMarker ++ rest).head?, isBlank c = false := by
      intro c hc
      obtain rfl : '<' = c := Option.some.inj hc
      decide
    rw [htext, trimStart, dropWhile_gap_append hgap hmarker]
    exact List.prefix_append _ _

theorem reply_of_isTimeout (dialect : Dialect) {text : String} (h : IsTimeout text) :
    dialect.reply text =
      .failed Outcome.farEndTimeout (String.ofList (trim text.toList)) :=
  if_pos (isTimeoutReply_iff.mpr h)

theorem reply_of_not_isTimeout (dialect : Dialect) {text : String} (h : ¬IsTimeout text) :
    dialect.reply text = dialect.statusReply text :=
  if_neg (mt isTimeoutReply_iff.mp h)

/-- **Codes are those that the far end writes**, apart from zero and from the one for a failure
without a code. -/
theorem code_statusReply_eq_iff {dialect : Dialect} {text : String} {code : Int32} (hcode : code ≠ 0)
    (herror : code ≠ Outcome.farEndError) :
    (dialect.statusReply text).code = code ↔ dialect.Cites text code := by
  have hwrites := writes_words text.toList
  constructor
  · intro h
    have hsays := says_statusOutcome dialect (words text.toList)
    rw [← statusReply_of_writes hwrites] at hsays
    -- Only what the words say matters, and only one of the rules brings any other code.
    generalize words text.toList = tokens at hwrites hsays
    generalize dialect.statusReply text = outcome at h hsays
    subst h
    cases hsays with
    | nothing => exact absurd rfl hcode
    | success hfirst => exact absurd rfl hcode
    | coded hfirst hnumeral hne => exact ⟨_, _, _, hwrites, hfirst, hnumeral⟩
    | uncoded hfirst hnone => exact absurd rfl herror
    | values hok hfail => exact absurd rfl hcode
  · intro h
    obtain ⟨first, numeral, rest, hwrites, hfirst, hnumeral⟩ := h
    rw [statusReply_of_writes hwrites, statusOutcome_of_saysFail hfirst,
      failure_coded hnumeral hcode]
    rfl

/-- The marker is looked for before the words are, and then they do not matter. -/
theorem code_reply_eq_iff {dialect : Dialect} {text : String} {code : Int32} (hcode : code ≠ 0)
    (herror : code ≠ Outcome.farEndError) :
    (dialect.reply text).code = code ↔
      IsTimeout text ∧ code = Outcome.farEndTimeout ∨
        ¬IsTimeout text ∧ dialect.Cites text code := by
  by_cases htimeout : IsTimeout text
  · rw [reply_of_isTimeout dialect htimeout]
    simp [htimeout, Outcome.failed, eq_comm]
  · rw [reply_of_not_isTimeout dialect htimeout, code_statusReply_eq_iff hcode herror]
    simp [htimeout]

end Dialect

/-! ### Well-formed outcomes -/

namespace Outcome

/-- A success has the code zero, no message and words as values; a failure has another code and no
values. -/
structure WellFormed (outcome : Outcome) : Prop where
  success_iff : outcome.success = true ↔ outcome.code = 0
  message_of_success : outcome.success = true → outcome.message = ""
  values_of_failure : outcome.success = false → outcome.values = []
  isWord : ∀ value ∈ outcome.values, IsWord value.toList

theorem wellFormed_ok {tokens : List (List Char)} (h : ∀ token ∈ tokens, IsWord token) :
    (ok (tokens.map String.ofList)).WellFormed where
  success_iff := by simp [ok, okCode]
  message_of_success _ := rfl
  values_of_failure hfailure := absurd hfailure (by simp [ok])
  isWord value hvalue := by
    obtain ⟨token, htoken, rfl⟩ := List.mem_map.mp hvalue
    rw [String.toList_ofList]
    exact h token htoken

theorem wellFormed_nil : (ok []).WellFormed := by
  have hnone : ∀ token ∈ ([] : List (List Char)), IsWord token := by simp
  exact wellFormed_ok hnone

theorem wellFormed_failed {code : Int32} (hcode : code ≠ 0) (message : String) :
    (failed code message).WellFormed where
  success_iff := by simp [failed, hcode]
  message_of_success hsuccess := absurd hsuccess (by simp [failed])
  values_of_failure _ := rfl
  isWord value hvalue := by simp [failed] at hvalue

end Outcome

namespace Dialect

theorem Says.wellFormed {dialect : Dialect} {tokens : List (List Char)} {outcome : Outcome}
    (h : dialect.Says tokens outcome) (hwords : ∀ token ∈ tokens, IsWord token) :
    outcome.WellFormed := by
  cases h with
  | nothing => exact Outcome.wellFormed_nil
  | success hfirst =>
      exact Outcome.wellFormed_ok fun token htoken => hwords token (List.mem_cons_of_mem _ htoken)
  | coded hfirst hnumeral hcode => exact Outcome.wellFormed_failed hcode _
  | uncoded hfirst hnone => exact Outcome.wellFormed_failed (by decide) _
  | values hok hfail => exact Outcome.wellFormed_ok hwords

/-- **Replies of any text** are read as well-formed outcomes. -/
theorem wellFormed_reply (dialect : Dialect) (text : String) : (dialect.reply text).WellFormed := by
  by_cases htimeout : IsTimeout text
  · rw [reply_of_isTimeout dialect htimeout]
    exact Outcome.wellFormed_failed (by decide) _
  · have hwrites := writes_words text.toList
    rw [reply_of_not_isTimeout dialect htimeout, statusReply_of_writes hwrites]
    exact (says_statusOutcome dialect _).wellFormed hwrites.isWord

end Dialect

end TelescopeLink
