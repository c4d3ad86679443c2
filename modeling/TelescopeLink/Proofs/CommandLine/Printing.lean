import TelescopeLink.Proofs.CommandLine.Batch
import TelescopeLink.Proofs.Outcome.Reading

/-!
# Outcomes line by line

Whoever calls the program takes what it prints apart at the line breaks and reads every line as an
outcome. Nothing an outcome can hold gets in the way of that: its text has no line break and nothing
else below the space (`Outcome.inline_toJson`), and reads back as the outcome
(`Outcome.ofJson_toJson`). So there are as many lines as outcomes, in their order
(`prints_outcomes_on_lines`).

For this it makes no difference what the service does with a command, so here it may do anything: a
host that is `answering` gives any outcome at all, or none, and goes on with any service.
-/

namespace TelescopeLink.CommandLine

/-- A host that is given everything beforehand, also what comes of each command, if anything does. -/
def answering (contents : String → Except IoFault (List UInt8))
    (openLink : NetworkSettings → Except Error Link)
    (execute : Service → Command → Option (Outcome × Service)) (input : List String) :
    Host (StateM String) :=
  { scripted contents openLink (fun _ => []) input with
    execute := fun service command => pure (execute service command) }

/-- What comes of commands that are executed one after another. A command of which nothing comes
leaves the service as it was. -/
def outcomesOf (execute : Service → Command → Option (Outcome × Service)) :
    Service → List Command → List Outcome
  | _, [] => []
  | service, command :: more =>
    match execute service command with
    | none => outcomesOf execute service more
    | some (outcome, next) => outcome :: outcomesOf execute next more

/-- The commands that an action has executed. -/
def Action.commands (input : List String) : Action → List Command
  | .send json => (Command.ofJson json).toOption.toList
  | .run => CommandLine.commands input
  | .config => []

/-- The command line asks for an action, the settings are read, and the service that they describe
is at work. -/
def Starts (host : Host (StateM String)) (args : List String) (action : Action)
    (service : Service) : Prop :=
  ∃ options settings, parse args = .act options action ∧
    loadSettings host options = pure (.ok settings) ∧
    startService host settings = pure (.ok service)

/-- Outcomes as they are printed, each with a line break behind it. -/
def printedLines (outcomes : List Outcome) : String :=
  String.join (outcomes.map fun outcome => outcome.toJson ++ "\n")

theorem printedLines_cons (outcome : Outcome) (outcomes : List Outcome) :
    printedLines (outcome :: outcomes) = outcome.toJson ++ "\n" ++ printedLines outcomes := by
  simp [printedLines]

/-! ### Taking lines apart -/

/-- A line ends at the first break. -/
theorem splitOn_line {line : List Char} (h : '\n' ∉ line) (rest : List Char) :
    (line ++ '\n' :: rest).splitOn '\n' = line :: rest.splitOn '\n' := by
  have hline : line.splitOnP (· == '\n') = [line] := by
    refine List.splitOnP_eq_singleton fun c hc => ?_
    have hne : c ≠ '\n' := by
      rintro rfl
      exact h hc
    simpa using hne
  rw [List.splitOn, List.splitOnP_append_cons _ _ (by simp), hline]
  rfl

/-- Cut at its line breaks, what is printed of outcomes is their texts, and nothing stands behind
the last break. -/
theorem splitOn_printedLines (outcomes : List Outcome) :
    (printedLines outcomes).toList.splitOn '\n' =
      outcomes.map (·.toJson.toList) ++ [[]] := by
  induction outcomes with
  | nil => rfl
  | cons outcome outcomes ih =>
    -- The outcome has no break of its own, so the first one is that behind it.
    have htext : (printedLines (outcome :: outcomes)).toList =
        outcome.toJson.toList ++ '\n' :: (printedLines outcomes).toList := by
      simp [printedLines_cons]
    rw [htext, splitOn_line outcome.newline_notMem_toJson, ih]
    rfl

/-! ### What an action prints -/

section Printing

variable {contents : String → Except IoFault (List UInt8)}
  {openLink : NetworkSettings → Except Error Link}
  {execute : Service → Command → Option (Outcome × Service)} {input : List String}

theorem executeAndPrint_answering_none {service : Service} {command : Command}
    (h : execute service command = none) (printed : String) :
    (executeAndPrint (answering contents openLink execute input) service command).run printed =
      ((false, service), printed) :=
  executeAndPrint_of_none (congrArg pure h) printed

theorem executeAndPrint_answering_some {service next : Service} {command : Command}
    {outcome : Outcome} (h : execute service command = some (outcome, next)) (printed : String) :
    (executeAndPrint (answering contents openLink execute input) service command).run printed =
      ((outcome.success, next), printed ++ (outcome.toJson ++ "\n")) :=
  executeAndPrint_of_some (congrArg pure h) (fun _ => rfl) printed

/-- Executing a command prints what comes of it. -/
theorem printed_executeAndPrint (service : Service) (command : Command) (printed : String) :
    ((executeAndPrint (answering contents openLink execute input) service command).run
        printed).2 =
      printed ++ printedLines (outcomesOf execute service [command]) := by
  cases hexecute : execute service command with
  | none =>
    rw [executeAndPrint_answering_none hexecute]
    simp [outcomesOf, hexecute, printedLines]
  | some result =>
    rw [executeAndPrint_answering_some hexecute]
    simp [outcomesOf, hexecute, printedLines]

/-- Lines that are taken one after another print what comes of their commands. -/
theorem printed_foldlM_take (lines : List String) (batch : Batch) (printed : String) :
    ((lines.foldlM (Batch.take (answering contents openLink execute input)) batch).run
        printed).2 =
      printed ++ printedLines (outcomesOf execute batch.service (commands lines)) := by
  induction lines generalizing batch printed with
  | nil =>
    show printed = printed ++ ""
    rw [String.append_empty]
  | cons line lines ih =>
    rw [run_foldlM_cons, commands_cons]
    cases hasked : asked? line with
    | none =>
      rw [take_of_idle batch printed hasked]
      exact ih batch printed
    | some asked =>
      cases asked with
      | error fault =>
        rw [take_of_error batch printed hasked fun _ => rfl]
        exact ih { batch with allOk := false } printed
      | ok command =>
        show _ = printed ++ printedLines (outcomesOf execute batch.service
          (command :: commands lines))
        cases hexecute : execute batch.service command with
        | none =>
          rw [take_of_ok batch printed hasked (executeAndPrint_answering_none hexecute printed),
            outcomesOf, hexecute]
          exact ih _ printed
        | some result =>
          rw [take_of_ok batch printed hasked (executeAndPrint_answering_some hexecute printed),
            outcomesOf, hexecute]
          refine (ih _ _).trans ?_
          rw [printedLines_cons, String.append_assoc]

/-- However stopping the service turns out, it prints nothing. -/
theorem printed_stop (service : Service) (success : Bool) (printed : String) :
    ((match service.shutdown.1 with
      | .error error => giveUp (answering contents openLink execute input) error
      | .ok () => pure success : StateM String Bool).run printed).2 = printed := by
  cases service.shutdown.1 <;> rfl

/-- An action that executes commands prints what comes of them. -/
theorem printed_perform {settings : Settings} {action : Action} {service : Service}
    (haction : action ≠ .config)
    (hstart : startService (answering contents openLink execute input) settings =
      pure (.ok service)) (printed : String) :
    ((perform (answering contents openLink execute input) settings action).run printed).2 =
      printed ++ printedLines (outcomesOf execute service (action.commands input)) := by
  let host := answering contents openLink execute input
  cases action with
  | config => exact absurd rfl haction
  | send json =>
    rw [perform]
    cases hcommand : Command.ofJson json with
    | error fault =>
      have hcommands : Action.commands input (.send json) = [] := by
        rw [Action.commands, hcommand]
        rfl
      rw [hcommands]
      exact (String.append_empty).symm
    | ok command =>
      have hcommands : Action.commands input (.send json) = [command] := by
        rw [Action.commands, hcommand]
        rfl
      have hexecuted : ((executeAndPrint host service command).run printed).2 =
          printed ++ printedLines (outcomesOf execute service [command]) :=
        printed_executeAndPrint service command printed
      rw [hcommands, ← hexecuted]
      dsimp only
      rw [hstart, pure_bind]
      -- The service is started and stopped around the command, and neither prints anything.
      exact printed_stop _ _ _
  | run =>
    have hfold : ((host.foldInput (Batch.take host) { service }).run printed).2 =
        printed ++ printedLines (outcomesOf execute service (Action.commands input .run)) :=
      printed_foldlM_take input { service } printed
    rw [perform, hstart, pure_bind, ← hfold]
    exact printed_stop _ _ _

end Printing

/-- **Every outcome is printed on a line of its own that reads back as the outcome.** Whatever code,
message and values it has, no character of its text is below the space, and reading the text gives
the outcome.

So it is with what `send` and `run` print once the service is at work, whatever comes of the
commands: cut at its line breaks, it is the texts of the outcomes in order, and nothing stands behind
the last break. -/
theorem prints_outcomes_on_lines :
    (∀ outcome : Outcome, (∀ c ∈ outcome.toJson.toList, 0x20 ≤ c.toNat) ∧
      Outcome.ofJson outcome.toJson = .ok outcome) ∧
    ∀ (contents : String → Except IoFault (List UInt8))
      (openLink : NetworkSettings → Except Error Link)
      (execute : Service → Command → Option (Outcome × Service)) (input args : List String)
      (action : Action) (service : Service) (printed : String),
      let host := answering contents openLink execute input
      let outcomes := outcomesOf execute service (action.commands input)
      Starts host args action service → action ≠ .config →
        ((run host args).run printed).2 = printed ++ printedLines outcomes ∧
        (printedLines outcomes).toList.splitOn '\n' =
          outcomes.map (·.toJson.toList) ++ [[]] := by
  refine ⟨fun outcome => ⟨outcome.inline_toJson, outcome.ofJson_toJson⟩, ?_⟩
  intro contents openLink execute input args action service printed host outcomes hstarts haction
  obtain ⟨options, settings, hargs, hsettings, hstart⟩ := hstarts
  refine ⟨?_, splitOn_printedLines outcomes⟩
  rw [run_of_act hargs hsettings]
  exact printed_perform haction hstart printed

/-- Of two commands in the input the first comes to an outcome that no service gives, a success with
a code and control characters in its texts, and the other to nothing. -/
theorem prints_outcomes_on_lines_control_characters :
    let outcome : Outcome := ⟨true, Int32.minValue, "\"\\/\x00\n\x7f", ["", "\t\x1f", "é𝄞"]⟩
    let execute : Service → Command → Option (Outcome × Service) := fun service command =>
      match command with
      | .stop => some (outcome, service)
      | _ => none
    let input := ["\x7b\"type\":\"Stop\"\x7d", "[\"Show\",\"AZIMUTH\"]"]
    let host := answering (fun _ => .error .noSuchFile) (fun _ => .ok {}) execute input
    let line := "\x7b\"success\":true,\"code\":-2147483648,\"message\":" ++
      "\"\\\"\\\\/\\u0000\\n\x7f\",\"values\":[\"\",\"\\t\\u001f\",\"é𝄞\"]\x7d"
    Starts host ["run"] .run (.new {} .tcs {}) ∧ ((run host ["run"]).run "").2 = line ++ "\n" ∧
      (line ++ "\n").toList.splitOn '\n' = [line.toList, []] ∧
      Outcome.ofJson line = .ok outcome := by
  intro outcome execute input host line
  have hstarts : Starts host ["run"] .run (.new {} .tcs {}) :=
    ⟨{}, {}, by decide, rfl, rfl⟩
  have hline : outcome.toJson = line := by decide +kernel
  have houtcomes : outcomesOf execute (.new {} .tcs {}) [.stop, .query "AZIMUTH"] = [outcome] := rfl
  have hcommands : Action.commands input .run = [.stop, .query "AZIMUTH"] := by decide +kernel
  obtain ⟨hread, hprinted⟩ := prints_outcomes_on_lines
  obtain ⟨htext, hlines⟩ := hprinted _ _ execute _ _ _ _ "" hstarts (by simp)
  have hprintedLines : printedLines [outcome] = line ++ "\n" := by
    rw [printedLines_cons, hline]
    exact String.append_empty
  rw [hcommands, houtcomes, hprintedLines] at htext hlines
  refine ⟨hstarts, htext.trans String.empty_append, ?_, hline ▸ (hread outcome).2⟩
  rw [hlines, List.map_singleton, hline]
  rfl

end TelescopeLink.CommandLine
