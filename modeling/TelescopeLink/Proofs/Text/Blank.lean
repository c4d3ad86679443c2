import Mathlib.Data.List.TakeWhile
import TelescopeLink.Text.Blank

/-!
# A text says its words

`Writes` says what it is for a text to write words in order: blanks of any kind and number between
two of them, at least one, and as many as one likes in front and behind. Every text writes its words
and nothing else (`writes_iff`), so whoever looks at the words of a text only cannot see how they are
spaced.

Reading goes along the text: a gap adds no word (`words_gap_append`), and a word with a blank or
nothing behind it is the first one (`words_word_append`).
-/

namespace TelescopeLink.Text

/-- Something without a blank in it. -/
def IsWord (word : List Char) : Prop := word ≠ [] ∧ ∀ c ∈ word, isBlank c = false

theorem isWord_iff_all {word : List Char} :
    (!word.isEmpty && word.all (!isBlank ·)) = true ↔ IsWord word := by
  simp [IsWord]

-- Going through the characters of the word, not through all that there are.
instance (word : List Char) : Decidable (IsWord word) := decidable_of_iff _ isWord_iff_all

/-- Blanks and nothing else, or nothing at all. -/
def IsGap (gap : List Char) : Prop := ∀ c ∈ gap, isBlank c = true

/-- The text writes the words in order. -/
inductive Writes : List (List Char) → List Char → Prop
  | nothing {gap : List Char} (hgap : IsGap gap) : Writes [] gap
  | last {before word after : List Char} (hbefore : IsGap before) (hword : IsWord word)
      (hafter : IsGap after) : Writes [word] (before ++ word ++ after)
  | more {before word gap rest next : List Char} {others : List (List Char)}
      (hbefore : IsGap before) (hword : IsWord word) (hgap : IsGap gap) (hne : gap ≠ [])
      (hrest : Writes (next :: others) rest) :
      Writes (word :: next :: others) (before ++ word ++ gap ++ rest)

/-! ### Gaps and words -/

@[simp] theorem isGap_nil : IsGap [] := by simp [IsGap]

@[simp] theorem isGap_cons_iff {c : Char} {cs : List Char} :
    IsGap (c :: cs) ↔ isBlank c = true ∧ IsGap cs := by
  simp [IsGap]

theorem isGap_takeWhile (cs : List Char) : IsGap (cs.takeWhile isBlank) :=
  fun _ => List.mem_takeWhile_imp

theorem isWord_cons_iff {c : Char} {cs : List Char} :
    IsWord (c :: cs) ↔ isBlank c = false ∧ ∀ d ∈ cs, isBlank d = false := by
  simp [IsWord]

/-- Words put together are one word. -/
theorem IsWord.append {word more : List Char} (hword : IsWord word) (hmore : IsWord more) :
    IsWord (word ++ more) := by
  refine ⟨by simp [hword.1], fun c hc => ?_⟩
  rcases List.mem_append.mp hc with hc | hc
  · exact hword.2 c hc
  · exact hmore.2 c hc

/-- A gap adds no word to what follows. -/
theorem words_gap_append {gap : List Char} (hgap : IsGap gap) (rest : List Char) :
    words (gap ++ rest) = words rest := by
  induction gap with
  | nil => rfl
  | cons c gap ih =>
      obtain ⟨hc, hgap⟩ := isGap_cons_iff.mp hgap
      rw [List.cons_append, words_cons_blank hc, ih hgap]

/-- Blanks alone have no word. -/
theorem words_gap {gap : List Char} (hgap : IsGap gap) : words gap = [] := by
  simpa using words_gap_append hgap []

/-- Characters that are no blanks belong to the first piece of what follows. -/
theorem pieces_append {word : List Char} (hword : ∀ c ∈ word, isBlank c = false)
    (rest : List Char) : pieces (word ++ rest) = (pieces rest).modifyHead (word ++ ·) := by
  induction word with
  | nil => cases hpieces : pieces rest <;> simp [hpieces]
  | cons c word ih =>
      have hc : isBlank c = false := hword c List.mem_cons_self
      have hrest := ih fun d hd => hword d (List.mem_cons_of_mem _ hd)
      rw [List.cons_append, pieces, hc, if_neg Bool.false_ne_true, hrest]
      cases hpieces : pieces rest with
      | nil => exact absurd hpieces (pieces_ne_nil rest)
      | cons piece more => rfl

/-- A word is read as one if it is not continued. -/
theorem words_word_append {word rest : List Char} (hword : IsWord word)
    (hrest : ∀ c ∈ rest.head?, isBlank c = true) : words (word ++ rest) = word :: words rest := by
  rw [words, pieces_append hword.2]
  cases rest with
  | nil => simp [pieces, hword.1]
  | cons c rest =>
      have hc : isBlank c = true := hrest c rfl
      rw [pieces_cons_blank hc, words_cons_blank hc]
      simp [words, hword.1]

/-! ### Texts and their words -/

/-- Nothing but words is written. -/
theorem Writes.isWord {tokens : List (List Char)} {text : List Char} (h : Writes tokens text) :
    ∀ token ∈ tokens, IsWord token := by
  induction h with
  | nothing hgap => simp
  | last hbefore hword hafter => simpa using hword
  | more hbefore hword hgap hne hrest ih =>
      intro token htoken
      rcases List.mem_cons.mp htoken with rfl | htoken
      · exact hword
      · exact ih token htoken

/-- What is written is read. -/
theorem Writes.words_eq {tokens : List (List Char)} {text : List Char} (h : Writes tokens text) :
    words text = tokens := by
  induction h with
  | nothing hgap => exact words_gap hgap
  | @last before word after hbefore hword hafter =>
      rw [List.append_assoc, words_gap_append hbefore, words_word_append hword, words_gap hafter]
      exact fun c hc => hafter c (List.mem_of_mem_head? hc)
  | @more before word gap rest next others hbefore hword hgap hne hrest ih =>
      have hhead : ∀ c ∈ (gap ++ rest).head?, isBlank c = true := by
        obtain ⟨b, gap, rfl⟩ := List.exists_cons_of_ne_nil hne
        intro c hc
        obtain rfl : b = c := Option.some.inj hc
        exact hgap b List.mem_cons_self
      rw [List.append_assoc, List.append_assoc, words_gap_append hbefore,
        words_word_append hword hhead, words_gap_append hgap, ih]

/-- Blanks may be put in front. -/
theorem Writes.gap_append {tokens : List (List Char)} {text gap : List Char} (h : Writes tokens text)
    (hgap : IsGap gap) : Writes tokens (gap ++ text) := by
  have hboth : ∀ {before : List Char}, IsGap before → IsGap (gap ++ before) := by
    intro before hbefore c hc
    exact (List.mem_append.mp hc).elim (hgap c) (hbefore c)
  cases h with
  | nothing hrest => exact .nothing (hboth hrest)
  | last hbefore hword hafter =>
      rw [List.append_assoc, ← List.append_assoc, ← List.append_assoc]
      exact .last (hboth hbefore) hword hafter
  | more hbefore hword hbetween hne hrest =>
      simp only [← List.append_assoc]
      exact .more (hboth hbefore) hword hbetween hne hrest

/-- A word and a blank may be put in front. -/
theorem Writes.word_append {tokens : List (List Char)} {text word : List Char} {c : Char}
    (h : Writes tokens text) (hword : IsWord word) (hc : isBlank c = true) :
    Writes (word :: tokens) (word ++ c :: text) := by
  have hgap : IsGap [c] := by simpa using hc
  cases tokens with
  | nil =>
      cases h with
      | nothing hrest =>
          exact @Writes.last [] word _ isGap_nil hword (isGap_cons_iff.mpr ⟨hc, hrest⟩)
  | cons next others =>
      have hmore := Writes.more isGap_nil hword hgap (List.cons_ne_nil c []) h
      simpa using hmore

/-- The first character that is left after a run of others. -/
theorem head?_dropWhile {p : Char → Bool} {cs rest : List Char} {c : Char}
    (h : cs.dropWhile p = c :: rest) : p c = false := by
  have hhead := List.head?_dropWhile_not p cs
  rw [h] at hhead
  exact hhead

/-- Every text writes its words. -/
theorem writes_words (text : List Char) : Writes (words text) text := by
  -- On the length, since what is left behind a word is no part of the text by structure.
  induction hlength : text.length using Nat.strongRecOn generalizing text with
  | ind n ih =>
    subst hlength
    rw [← List.takeWhile_append_dropWhile (p := isBlank) (l := text)]
    have hgap := isGap_takeWhile text
    rw [words_gap_append hgap]
    refine Writes.gap_append ?_ hgap
    cases hstart : text.dropWhile isBlank with
    | nil => exact .nothing isGap_nil
    | cons c rest =>
        -- A word begins here, and what follows it is shorter than the text.
        have hword : IsWord (c :: rest.takeWhile (!isBlank ·)) :=
          isWord_cons_iff.mpr ⟨head?_dropWhile hstart, fun d hd => by
            simpa using List.mem_takeWhile_imp hd⟩
        rw [← List.takeWhile_append_dropWhile (p := (!isBlank ·)) (l := rest), ← List.cons_append]
        cases hend : rest.dropWhile (!isBlank ·) with
        | nil =>
            rw [words_word_append hword (by simp)]
            exact @Writes.last [] _ [] isGap_nil hword isGap_nil
        | cons b more =>
            have hb : isBlank b = true := by simpa using head?_dropWhile hend
            rw [words_word_append hword (by simpa using hb), words_cons_blank hb]
            refine (ih more.length ?_ more rfl).word_append hword hb
            have hlater := congrArg List.length hend
            have hsooner := congrArg List.length hstart
            have := List.length_dropWhile_le (!isBlank ·) rest
            have := List.length_dropWhile_le isBlank text
            simp only [List.length_cons] at hlater hsooner
            omega

/-- **A text writes its words, and no others.** -/
theorem writes_iff {tokens : List (List Char)} {text : List Char} :
    Writes tokens text ↔ words text = tokens := by
  constructor
  · exact Writes.words_eq
  · intro h
    exact h ▸ writes_words text

/-- Words with one space between neighbours. -/
theorem writes_unwords {tokens : List (List Char)} (h : ∀ token ∈ tokens, IsWord token) :
    Writes tokens (unwords tokens) := by
  fun_induction unwords tokens with
  | case1 => exact .nothing isGap_nil
  | case2 word =>
      have hword := h word List.mem_cons_self
      simpa using Writes.last isGap_nil hword isGap_nil
  | case3 word next others ih =>
      exact (ih fun token htoken => h token (List.mem_cons_of_mem _ htoken)).word_append
        (h word List.mem_cons_self) (by decide)

/-- Words that are put together with spaces are found again. -/
theorem words_unwords {tokens : List (List Char)} (h : ∀ token ∈ tokens, IsWord token) :
    words (unwords tokens) = tokens :=
  (writes_unwords h).words_eq

/-- Nothing but spaces is added to the words. -/
theorem mem_unwords_iff {c : Char} (hc : c ≠ ' ') {tokens : List (List Char)} :
    c ∈ unwords tokens ↔ ∃ token ∈ tokens, c ∈ token := by
  fun_induction unwords tokens with
  | case1 => simp
  | case2 word => simp
  | case3 word next others ih => simp [ih, hc]

/-! ### Trimming -/

/-- Skipping blanks takes a gap away and stops there. -/
theorem dropWhile_gap_append {gap rest : List Char} (hgap : IsGap gap)
    (hrest : ∀ c ∈ rest.head?, isBlank c = false) : (gap ++ rest).dropWhile isBlank = rest := by
  rw [List.dropWhile_append_of_pos hgap]
  cases rest with
  | nil => rfl
  | cons c rest => exact List.dropWhile_cons_of_neg (by simpa using hrest c rfl)

/-- Trimming takes gaps from the two ends. -/
theorem exists_eq_trim (cs : List Char) :
    ∃ before after, IsGap before ∧ IsGap after ∧ cs = before ++ trim cs ++ after := by
  refine ⟨cs.takeWhile isBlank, ((trimStart cs).reverse.takeWhile isBlank).reverse,
    isGap_takeWhile cs, fun c hc => isGap_takeWhile _ c (List.mem_reverse.mp hc), ?_⟩
  have hend : trimStart cs = trim cs ++ ((trimStart cs).reverse.takeWhile isBlank).reverse := by
    rw [trim, trimEnd, ← List.reverse_append, List.takeWhile_append_dropWhile, List.reverse_reverse]
  rw [List.append_assoc, ← hend, trimStart, List.takeWhile_append_dropWhile]

/-- Trimming takes blanks away and nothing else. -/
theorem mem_trim_iff {c : Char} (hc : isBlank c = false) {cs : List Char} :
    c ∈ trim cs ↔ c ∈ cs := by
  obtain ⟨before, after, hbefore, hafter, hcs⟩ := exists_eq_trim cs
  have hout : ∀ {gap : List Char}, IsGap gap → c ∉ gap :=
    fun hgap hmem => absurd (hgap c hmem) (by simp [hc])
  constructor
  · intro h
    rw [hcs]
    exact List.mem_append_left _ (List.mem_append_right _ h)
  · intro h
    rw [hcs] at h
    simpa [hout hbefore, hout hafter] using h

/-- Nothing is left of blanks alone. -/
theorem trim_eq_nil_iff {cs : List Char} : trim cs = [] ↔ IsGap cs := by
  constructor
  · intro h
    obtain ⟨before, after, hbefore, hafter, hcs⟩ := exists_eq_trim cs
    rw [h, List.append_nil] at hcs
    rw [hcs]
    exact fun c hc => (List.mem_append.mp hc).elim (hbefore c) (hafter c)
  · intro h
    have hstart : trimStart cs = [] := List.dropWhile_eq_nil_iff.mpr h
    rw [trim, hstart]
    rfl

end TelescopeLink.Text
