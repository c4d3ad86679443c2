import TelescopeLink.Dialect
import TelescopeLink.Proofs.Binary64.Numeral
import TelescopeLink.Proofs.Binary64.Rounding
import TelescopeLink.Proofs.Text.Case

/-!
# What a command is called on the wire

`Dialect.Accepts` tells the commands that a dialect takes and `Dialect.wording` how it puts each of
them: a verb and so many arguments, one space between neighbours. A dialect refuses the rest, and
what it writes for a command it takes is the wording (`render_eq_ok_iff`).

Every argument of a command that is taken is a word: a number is written in digits, a name has been
trimmed to one, and a word in another letter case is a word still (`isWord_arguments`). So whoever
takes the text apart at its blanks finds the verb and the arguments, and nothing that a caller puts
into a name adds to them (`render_wording`).
-/

namespace TelescopeLink

open Text

/-- How many arguments a command has. -/
def Command.arity : Command → Nat
  | .slew _ _ | .offset _ _ => 2
  | .focus _ | .autoguide _ | .rotator _ | .instrument _ | .query _ => 1
  | .stop | .raw _ => 0

theorem Binary64.magnitudeAtMost_iff {x : Binary64} {n : Nat} :
    x.magnitudeAtMost n = true ↔ x.value ≤ n := by
  have hpos : (0 : ℚ) < x.denominator := by exact_mod_cast x.denominator_pos
  rw [magnitudeAtMost, decide_eq_true_iff, value, div_le_iff₀ hpos]
  exact_mod_cast Iff.rfl

namespace Dialect

/-! ### Commands in words -/

/-- The commands that a dialect takes. Only the control system looks at where the poles are. -/
def Accepts (dialect : Dialect) : Command → Prop
  | .slew ra dec =>
    ra.isFinite = true ∧ dec.isFinite = true ∧ (dialect = .tcs → dec.value ≤ 90)
  | .offset ra dec => ra.isFinite = true ∧ dec.isFinite = true
  | .focus position => position.isFinite = true
  | .rotator angle => angle.isFinite = true
  | .instrument name => IsWord (trim name.toList)
  | .query key => IsWord (trim key.toList)
  | .raw text => ¬IsGap text.toList
  | .autoguide _ | .stop => True

/-- The word by which a dialect calls a command. -/
def verb : Dialect → Command → List Char
  | .tcs, command => command.typeName.toList
  | .simulator, command => command.typeName.toList.map Char.toLower

/-- What stands before a name. -/
def nameLabel : Dialect → List Char
  | .tcs => []
  | .simulator => "name=".toList

/-- What stands behind the verb. -/
def arguments : Dialect → Command → List (List Char)
  | .tcs, .slew ra dec => [(ra.wrapAngle 360).fixed 6, dec.fixed 6]
  | .tcs, .offset ra dec => [ra.fixed 3, dec.fixed 3]
  | .tcs, .focus position => [position.fixed 4]
  | .tcs, .autoguide enable => [if enable then "ON".toList else "OFF".toList]
  | .tcs, .rotator angle => [angle.fixed 4]
  | .tcs, .query key => [upper (trim key.toList)]
  | .simulator, .slew ra dec => ["ra=".toList ++ ra.plain, "dec=".toList ++ dec.plain]
  | .simulator, .offset ra dec => ["dra=".toList ++ ra.plain, "ddec=".toList ++ dec.plain]
  | .simulator, .focus position => ["pos=".toList ++ position.plain]
  | .simulator, .rotator angle => ["angle=".toList ++ angle.plain]
  | .simulator, .query key => ["key=".toList ++ lower (trim key.toList)]
  | dialect, .instrument name => [dialect.nameLabel ++ trim name.toList]
  | _, _ => []

/-- How a dialect puts a command, if it has words for it. -/
def wording : Dialect → Command → Option (List Char)
  | _, .raw text => some text.toList
  | .simulator, .autoguide _ => none
  | dialect, command => some (unwords (dialect.verb command :: dialect.arguments command))

/-! ### What is taken -/

theorem bind_eq_ok_iff {α β : Type} {first : Except Refusal α} {next : α → Except Refusal β}
    {result : β} :
    first >>= next = .ok result ↔ ∃ value, first = .ok value ∧ next value = .ok result := by
  cases first with
  | error refusal => simp [bind, Except.bind]
  | ok value => simp [bind, Except.bind]

theorem pure_eq_ok_iff {α : Type} {value result : α} :
    (pure value : Except Refusal α) = .ok result ↔ value = result := by
  simp [pure, Except.pure]

/-- A guard passes on what it has been given, or refuses it. -/
theorem finite_eq_ok_iff {what : String} {value accepted : Binary64} :
    finite what value = .ok accepted ↔ value.isFinite = true ∧ value = accepted := by
  rw [finite]
  split
  · simp [*]
  · simp [*]

/-- Poles are looked at only behind the check for a finite number. -/
theorem declination_eq_ok_iff {value accepted : Binary64} :
    declination value = .ok accepted ↔
      (value.isFinite = true ∧ value.value ≤ 90) ∧ value = accepted := by
  have hpole : value.magnitudeAtMost 90 = true ↔ value.value ≤ 90 :=
    Binary64.magnitudeAtMost_iff
  rw [declination, bind_eq_ok_iff]
  simp only [finite_eq_ok_iff]
  constructor
  · intro h
    obtain ⟨same, ⟨hfinite, rfl⟩, h⟩ := h
    split at h
    · rename_i hatMost
      exact ⟨⟨hfinite, hpole.mp hatMost⟩, pure_eq_ok_iff.mp h⟩
    · exact absurd h (by simp [throw, throwThe, MonadExceptOf.throw])
  · intro h
    obtain ⟨⟨hfinite, hvalue⟩, rfl⟩ := h
    exact ⟨value, ⟨hfinite, rfl⟩, if_pos (hpole.mpr hvalue)⟩

/-- A name or a key is taken if one word is left of it without the blanks around it. -/
theorem oneWord_eq_ok_iff {what value : String} {word : List Char} :
    oneWord what value = .ok word ↔ IsWord (trim value.toList) ∧ trim value.toList = word := by
  have hword : (trim value.toList).isEmpty || (trim value.toList).any isBlank ↔
      ¬IsWord (trim value.toList) := by
    simp only [IsWord, Bool.or_eq_true, List.isEmpty_iff, List.any_eq_true]
    grind
  rw [oneWord]
  split
  · rename_i hnone
    simp [hword.mp hnone]
  · rename_i hsome
    simp [not_not.mp (mt hword.mpr hsome)]

/-- A raw text is taken if it is not blank, and passed on with its blanks. -/
theorem rawText_eq_ok_iff {text : String} {raw : List Char} :
    rawText text = .ok raw ↔ ¬IsGap text.toList ∧ text.toList = raw := by
  rw [rawText, ← trim_eq_nil_iff]
  split
  · rename_i hempty
    simp [List.isEmpty_iff.mp hempty]
  · rename_i hsome
    simp [mt List.isEmpty_iff.mpr hsome]

/-! ### What is written -/

-- In each case the guards come first, one after the other; what is left then compares letters.
theorem tcsWords_eq_ok_iff {command : Command} {text : List Char} :
    tcsWords command = .ok text ↔ Accepts .tcs command ∧ wording .tcs command = some text := by
  cases command with
  | slew ra dec =>
      simp only [tcsWords, bind_eq_ok_iff, finite_eq_ok_iff, declination_eq_ok_iff, pure_eq_ok_iff]
      simp [Accepts, wording, verb, arguments, unwords, Command.typeName, and_assoc]
  | offset ra dec =>
      simp only [tcsWords, bind_eq_ok_iff, finite_eq_ok_iff, pure_eq_ok_iff]
      simp [Accepts, wording, verb, arguments, unwords, Command.typeName, and_assoc]
  | focus value | rotator value =>
      simp only [tcsWords, bind_eq_ok_iff, finite_eq_ok_iff, pure_eq_ok_iff]
      simp [Accepts, wording, verb, arguments, unwords, Command.typeName]
  | instrument value | query value =>
      simp only [tcsWords, bind_eq_ok_iff, oneWord_eq_ok_iff, pure_eq_ok_iff]
      simp [Accepts, wording, verb, arguments, unwords, Command.typeName, nameLabel]
  | autoguide | stop =>
      simp only [tcsWords, pure_eq_ok_iff]
      simp [Accepts, wording, verb, arguments, unwords, Command.typeName]
  | raw own => simp [tcsWords, rawText_eq_ok_iff, Accepts, wording]

theorem simulatorWords_eq_ok_iff {command : Command} {text? : Option (List Char)} :
    simulatorWords command = .ok text? ↔
      Accepts .simulator command ∧ wording .simulator command = text? := by
  cases command with
  | slew ra dec | offset ra dec =>
      simp only [simulatorWords, bind_eq_ok_iff, finite_eq_ok_iff, pure_eq_ok_iff]
      simp [Accepts, wording, verb, arguments, unwords, Command.typeName, and_assoc]
  | focus value | rotator value =>
      simp only [simulatorWords, bind_eq_ok_iff, finite_eq_ok_iff, pure_eq_ok_iff]
      simp [Accepts, wording, verb, arguments, unwords, Command.typeName]
  | instrument value | query value =>
      simp only [simulatorWords, bind_eq_ok_iff, oneWord_eq_ok_iff, pure_eq_ok_iff]
      simp [Accepts, wording, verb, arguments, unwords, Command.typeName, nameLabel]
  | autoguide enable => simp [simulatorWords, pure_eq_ok_iff, Accepts, wording]
  | stop =>
      simp only [simulatorWords, pure_eq_ok_iff]
      simp [Accepts, wording, verb, arguments, unwords, Command.typeName]
  | raw own =>
      simp only [simulatorWords, bind_eq_ok_iff, rawText_eq_ok_iff, pure_eq_ok_iff]
      simp [Accepts, wording]

/-- The control system has words for every command. -/
theorem wording_tcs_ne_none (command : Command) : wording .tcs command ≠ none := by
  cases command <;> simp [wording]

theorem wording_eq_none_iff {dialect : Dialect} {command : Command} :
    dialect.wording command = none ↔
      dialect = .simulator ∧ ∃ enable, command = .autoguide enable := by
  cases dialect with
  | tcs => simp [wording_tcs_ne_none]
  | simulator => cases command <;> simp [wording]

theorem map_eq_ok_iff {α β : Type} {words : Except Refusal α} {f : α → β} {result : β} :
    words.map f = .ok result ↔ ∃ value, words = .ok value ∧ f value = result := by
  cases words with
  | error refusal => simp [Except.map]
  | ok value => simp [Except.map]

/-- What a dialect writes for the commands that it takes. -/
theorem render_eq_ok_iff {dialect : Dialect} {command : Command} {text? : Option String} :
    dialect.render command = .ok text? ↔
      dialect.Accepts command ∧ (dialect.wording command).map String.ofList = text? := by
  cases dialect with
  | tcs =>
      obtain ⟨text, htext⟩ := Option.ne_none_iff_exists'.mp (wording_tcs_ne_none command)
      simp only [render, map_eq_ok_iff, tcsWords_eq_ok_iff, htext]
      simp
  | simulator =>
      simp only [render, map_eq_ok_iff, simulatorWords_eq_ok_iff, and_assoc]
      simp

/-- What a dialect does not take is refused. -/
theorem exists_render_eq_error_iff {dialect : Dialect} {command : Command} :
    (∃ refusal, dialect.render command = .error refusal) ↔ ¬dialect.Accepts command := by
  constructor
  · intro h haccepts
    obtain ⟨refusal, hrefusal⟩ := h
    have hok := render_eq_ok_iff.mpr ⟨haccepts, rfl⟩
    exact absurd (hrefusal.symm.trans hok) (by simp)
  · intro hrefused
    cases hrender : dialect.render command with
    | error refusal => exact ⟨refusal, rfl⟩
    | ok text? => exact absurd (render_eq_ok_iff.mp hrender).1 hrefused

/-! ### Verb and arguments -/

/-- No verb has a blank in it. -/
theorem isWord_verb (dialect : Dialect) (command : Command) : IsWord (dialect.verb command) := by
  cases dialect <;> cases command <;> simp [verb, Command.typeName, isWord_cons_iff, isBlank]

/-- A label and a word make one word. -/
theorem isWord_labelled {label : String} {word : List Char} (hlabel : IsWord label.toList)
    (hword : IsWord word) : ∀ argument ∈ [label.toList ++ word], IsWord argument :=
  List.forall_mem_singleton.mpr (hlabel.append hword)

/-- Whatever the caller gives, an argument is a word. -/
theorem isWord_arguments {dialect : Dialect} {command : Command}
    (haccepts : dialect.Accepts command) :
    ∀ argument ∈ dialect.arguments command, IsWord argument := by
  cases dialect with
  | tcs =>
      cases command with
      | slew ra dec | offset ra dec => simp [arguments, Binary64.isWord_fixed]
      | focus value | rotator value => simp [arguments, Binary64.isWord_fixed]
      | autoguide enable => cases enable <;> decide
      | instrument name => exact List.forall_mem_singleton.mpr haccepts
      | query key => exact List.forall_mem_singleton.mpr (isWord_upper haccepts)
      | stop | raw => simp [arguments]
  | simulator =>
      cases command with
      | slew ra dec =>
          obtain ⟨hra, hdec, -⟩ := haccepts
          exact List.forall_mem_cons.mpr
            ⟨.append (by decide) (Binary64.isWord_plain hra),
              isWord_labelled (by decide) (Binary64.isWord_plain hdec)⟩
      | offset ra dec =>
          obtain ⟨hra, hdec⟩ := haccepts
          exact List.forall_mem_cons.mpr
            ⟨.append (by decide) (Binary64.isWord_plain hra),
              isWord_labelled (by decide) (Binary64.isWord_plain hdec)⟩
      | focus value | rotator value =>
          exact isWord_labelled (by decide) (Binary64.isWord_plain haccepts)
      | instrument name => exact isWord_labelled (by decide) haccepts
      | query key => exact isWord_labelled (by decide) (isWord_lower haccepts)
      | autoguide | stop | raw => simp [arguments]

/-- A dialect that has words for a command gives it all its arguments. -/
theorem length_arguments {dialect : Dialect} {command : Command}
    (hwords : dialect.wording command ≠ none) :
    (dialect.arguments command).length = command.arity := by
  cases dialect with
  | tcs => cases command <;> rfl
  | simulator =>
      cases command with
      | autoguide enable => exact absurd rfl hwords
      | _ => rfl

/-- Verb and arguments make up the wording of every command but a raw one. -/
theorem wording_eq_unwords {dialect : Dialect} {command : Command} {text : List Char}
    (htext : dialect.wording command = some text) (hown : ∀ own, command ≠ .raw own) :
    text = unwords (dialect.verb command :: dialect.arguments command) := by
  unfold wording at htext
  split at htext
  · exact absurd rfl (hown _)
  · exact absurd htext (by simp)
  · exact (Option.some.inj htext).symm

/-- Only the simulator has no words for a command, and only for one. -/
theorem render_eq_none_iff {dialect : Dialect} {command : Command} :
    dialect.render command = .ok none ↔
      dialect = .simulator ∧ ∃ enable, command = .autoguide enable := by
  rw [render_eq_ok_iff, Option.map_eq_none_iff, wording_eq_none_iff]
  constructor
  · exact And.right
  · intro h
    obtain ⟨hdialect, enable, rfl⟩ := h
    exact ⟨trivial, hdialect, enable, rfl⟩

theorem eq_of_render_raw {dialect : Dialect} {own text : String}
    (h : dialect.render (.raw own) = .ok (some text)) : text = own := by
  obtain ⟨-, hwording⟩ := render_eq_ok_iff.mp h
  cases dialect <;> simpa [wording, eq_comm] using hwording

/-- What is written for a command that is taken and not raw. -/
theorem unwords_of_render {dialect : Dialect} {command : Command} {text : String}
    (hown : ∀ own, command ≠ .raw own) (h : dialect.render command = .ok (some text)) :
    dialect.Accepts command ∧ (dialect.arguments command).length = command.arity ∧
      text.toList = unwords (dialect.verb command :: dialect.arguments command) := by
  obtain ⟨haccepts, hwording⟩ := render_eq_ok_iff.mp h
  obtain ⟨letters, hletters, htext⟩ := Option.map_eq_some_iff.mp hwording
  refine ⟨haccepts, length_arguments (by simp [hletters]), ?_⟩
  rw [← htext, String.toList_ofList]
  exact wording_eq_unwords hletters hown

/-- **Commands in words.** A dialect refuses the commands that it does not take, and no others; for
one that it takes it writes nothing only if that is the autoguider's and the dialect the simulator.
A raw text is written as it stands. What is written for any other command is its verb and as many
arguments as it has, one space between neighbours; each of them is a word, so these are the words of
the text and a reader finds no more and no fewer. The argument that names an instrument is the name
without the blanks around it. -/
theorem render_wording (dialect : Dialect) (command : Command) :
    ((∃ refusal, dialect.render command = .error refusal) ↔ ¬dialect.Accepts command) ∧
    (dialect.render command = .ok none ↔
      dialect = .simulator ∧ ∃ enable, command = .autoguide enable) ∧
    (∀ own text, command = .raw own → dialect.render command = .ok (some text) → text = own) ∧
    ∀ text, (∀ own, command ≠ .raw own) → dialect.render command = .ok (some text) →
      (dialect.arguments command).length = command.arity ∧
      (∀ word ∈ dialect.verb command :: dialect.arguments command, IsWord word) ∧
      text.toList = unwords (dialect.verb command :: dialect.arguments command) ∧
      words text.toList = dialect.verb command :: dialect.arguments command ∧
      ∀ name, command = .instrument name →
        dialect.arguments command = [dialect.nameLabel ++ trim name.toList] := by
  refine ⟨exists_render_eq_error_iff, render_eq_none_iff, ?_, ?_⟩
  · intro own text hraw hrender
    subst hraw
    exact eq_of_render_raw hrender
  · intro text hown hrender
    obtain ⟨haccepts, hlength, htext⟩ := unwords_of_render hown hrender
    have hwords : ∀ word ∈ dialect.verb command :: dialect.arguments command, IsWord word :=
      List.forall_mem_cons.mpr ⟨isWord_verb dialect command, isWord_arguments haccepts⟩
    refine ⟨hlength, hwords, htext, ?_, ?_⟩
    · rw [htext, words_unwords hwords]
    · intro name hname
      subst hname
      cases dialect <;> rfl

/-- A key that grows in capitals, and a name that would be two arguments. -/
theorem render_wording_longer_key :
    Dialect.tcs.render (.query "\tstraße\u00A0") = .ok (some "SHOW STRASSE") ∧
    words "SHOW STRASSE".toList = ["SHOW".toList, "STRASSE".toList] ∧
    ∃ refusal, Dialect.simulator.render (.instrument "cam x=1") = .error refusal := by
  have hquery : Dialect.tcs.render (.query "\tstraße\u00A0") = .ok (some "SHOW STRASSE") := by
    decide +kernel
  have htwo : ¬IsWord (trim "cam x=1".toList) := by decide
  obtain ⟨-, -, -, hwords, -⟩ := (render_wording .tcs _).2.2.2 _ (by simp) hquery
  exact ⟨hquery, hwords, (render_wording .simulator _).1.mpr htwo⟩

end Dialect

end TelescopeLink
