import TelescopeLink.CommandLine
import TelescopeLink.Proofs.Outcome.Json
import TelescopeLink.Proofs.Service.Execution

/-!
# Commands from the input

Taking commands line by line is executing them one after another: what is printed are their outcomes
in order, and the exit code says whether all was well. Lines that ask for nothing leave no trace, and of
a line that is no command nothing is left but the exit code (`foldlM_take`).

A `scripted` host has one far end for all commands. Here each command meets with circumstances of its
own, which may depend on all that was done before (`scriptedUnder`).
-/

namespace TelescopeLink.CommandLine

open Service (Answer Answers)

/-! ### Lines -/

/-- What a line asks for: nothing if it is blank or a comment, else a command, or what is none. -/
def asked? (line : String) : Option (Except Json.Fault Command) :=
  let line := Text.trim line.toList
  if isIdle line then none else some (Command.ofJson (String.ofList line))

/-- The commands that an input asks for, in order. -/
def commands (input : List String) : List Command :=
  input.filterMap fun line => (asked? line).bind Except.toOption

/-- The line asks for nothing or for a command. -/
def isSound (line : String) : Bool :=
  match asked? line with
  | some (.error _) => false
  | _ => true

/-- What is printed of outcomes: each on a line. -/
def printout (answers : List Answer) : String :=
  String.join (answers.map fun answer => answer.outcome.toJson ++ "\n")

/-- A host that is given everything beforehand, also what each command meets with. -/
def scriptedUnder (contents : String → Except IoFault (List UInt8))
    (openLink : NetworkSettings → Except Error Link)
    (meets : Service → Command → Circumstances) (input : List String) : Host (StateM String) :=
  { scripted contents openLink (fun _ => []) input with
    execute := fun service command =>
      pure (service.executeUnder (meets service command) command) }

variable {contents : String → Except IoFault (List UInt8)}
  {openLink : NetworkSettings → Except Error Link} {meets : Service → Command → Circumstances}
  {input : List String}

/-- With one far end for all commands, and the link left alone, the host is the scripted one. -/
theorem scriptedUnder_self (farEnd : FarEnd) :
    scriptedUnder contents openLink (fun service _ =>
        { link := service.bridge.link, clock := service.bridge.clock, farEnd }) input =
      scripted contents openLink farEnd input := rfl

/-! ### One line -/

section Take

variable {host : Host (StateM String)}

/-- A command that comes to an outcome prints it, and its success is what the exit code hears of. -/
theorem executeAndPrint_of_some {service next : Service} {command : Command} {outcome : Outcome}
    (hexecute : host.execute service command = pure (some (outcome, next)))
    (hprint : ∀ text, host.print text = modify (· ++ text)) (printed : String) :
    (executeAndPrint host service command).run printed =
      ((outcome.success, next), printed ++ (outcome.toJson ++ "\n")) := by
  rw [executeAndPrint, hexecute, pure_bind]
  dsimp only
  rw [hprint]
  rfl

/-- A command that comes to nothing prints nothing, and counts as a failure. -/
theorem executeAndPrint_of_none {service : Service} {command : Command}
    (hexecute : host.execute service command = pure none) (printed : String) :
    (executeAndPrint host service command).run printed = ((false, service), printed) := by
  rw [executeAndPrint, hexecute, pure_bind]
  rfl

variable {line : String} (batch : Batch) (printed : String)

theorem take_of_idle (h : asked? line = none) :
    (batch.take host line).run printed = (batch, printed) := by
  have hidle : isIdle (Text.trim line.toList) = true := by simpa [asked?] using h
  rw [Batch.take, if_pos hidle]
  rfl

/-- A line that is no command changes nothing but the exit code, and the warning is not part of what
is printed. -/
theorem take_of_error {fault : Json.Fault} (h : asked? line = some (.error fault))
    (hwarn : ∀ text, host.warn text = pure ()) :
    (batch.take host line).run printed = ({ batch with allOk := false }, printed) := by
  obtain ⟨hbusy, hfault⟩ : isIdle (Text.trim line.toList) = false ∧
      Command.ofJson (String.ofList (Text.trim line.toList)) = .error fault := by
    simpa [asked?] using h
  rw [Batch.take, if_neg (by simp [hbusy]), hfault]
  dsimp only
  rw [giveUp, hwarn]
  rfl

theorem take_of_ok {command : Command} {success : Bool} {next : Service} {after : String}
    (h : asked? line = some (.ok command))
    (hexecuted : (executeAndPrint host batch.service command).run printed =
      ((success, next), after)) :
    (batch.take host line).run printed =
      ({ service := next, allOk := batch.allOk && success }, after) := by
  obtain ⟨hbusy, hcommand⟩ : isIdle (Text.trim line.toList) = false ∧
      Command.ofJson (String.ofList (Text.trim line.toList)) = .ok command := by
    simpa [asked?] using h
  rw [Batch.take, if_neg (by simp [hbusy]), hcommand]
  dsimp only
  rw [StateT.run_bind, hexecuted]
  rfl

end Take

/-! ### The whole input -/

theorem printout_cons (answer : Answer) (answers : List Answer) :
    printout (answer :: answers) = answer.outcome.toJson ++ "\n" ++ printout answers := by
  simp [printout]

theorem commands_cons (line : String) (lines : List String) :
    commands (line :: lines) =
      ((asked? line).bind Except.toOption).toList ++ commands lines := by
  unfold commands
  rw [List.filterMap_cons]
  cases (asked? line).bind Except.toOption <;> rfl

/-- The first line is taken before the others. -/
theorem run_foldlM_cons (host : Host (StateM String)) (batch : Batch) (line : String)
    (lines : List String) (printed : String) :
    ((line :: lines).foldlM (Batch.take host) batch).run printed =
      let taken := (batch.take host line).run printed
      (lines.foldlM (Batch.take host) taken.1).run taken.2 := rfl

/-- **Lines are taken one after another**: the commands among them are executed in order, their
outcomes are printed, and a line that is none only spoils the run. -/
theorem foldlM_take {lines : List String} {batch : Batch} {answers : List Answer} {after : Service}
    (hanswers : Answers meets batch.service answers after)
    (hcommands : answers.map (·.command) = commands lines) (printed : String) :
    (lines.foldlM (Batch.take (scriptedUnder contents openLink meets input)) batch).run printed =
      ({ service := after
         allOk := batch.allOk && (lines.all isSound && answers.all (·.outcome.success)) },
        printed ++ printout answers) := by
  -- Line by line: the answers step on only where a line asks for a command.
  induction lines generalizing batch answers printed with
  | nil =>
      obtain rfl : answers = [] := List.map_eq_nil_iff.mp hcommands
      cases hanswers
      show (batch, printed) = _
      simp [printout]
  | cons line lines ih =>
      rw [run_foldlM_cons]
      rw [commands_cons] at hcommands
      cases hasked : asked? line with
      | none =>
          rw [hasked] at hcommands
          rw [take_of_idle batch printed hasked]
          refine (ih hanswers hcommands printed).trans ?_
          simp [isSound, hasked]
      | some asked =>
          rw [hasked] at hcommands
          cases asked with
          | error fault =>
              -- Only the exit code is spoilt, and the answers start from the same service.
              have hspoilt : Answers meets { batch with allOk := false }.service answers after :=
                hanswers
              rw [take_of_error batch printed hasked fun _ => rfl]
              refine (ih hspoilt hcommands printed).trans ?_
              simp [isSound, hasked]
          | ok command =>
              change _ = command :: commands lines at hcommands
              cases hanswers with
              | nil => exact absurd hcommands (by simp)
              | @cons _ next _ answer answers k hexecute hfirst hnumber hlast hanswers =>
                  rw [List.map_cons] at hcommands
                  obtain ⟨rfl, hothers⟩ := List.cons.inj hcommands
                  have htaken : Answers meets
                      { batch with
                        service := next
                        allOk := batch.allOk && answer.outcome.success }.service answers after :=
                    hanswers
                  have hprinted : (executeAndPrint (scriptedUnder contents openLink meets input)
                      batch.service answer.command).run printed = _ :=
                    executeAndPrint_of_some (congrArg pure hexecute) (fun _ => rfl) printed
                  rw [take_of_ok batch printed hasked hprinted]
                  refine (ih htaken hothers _).trans ?_
                  simp [isSound, hasked, printout_cons, String.append_assoc, Bool.and_assoc,
                    Bool.and_left_comm]

/-! ### The program -/

section Run

variable {settings : Settings} {dialect : Dialect} {link : Link}

/-- Once the settings are read, the exit code says how the action went. -/
theorem run_of_act {host : Host (StateM String)} {args : List String} {options : Options}
    {action : Action} (hargs : parse args = .act options action)
    (hsettings : loadSettings host options = pure (.ok settings)) (printed : String) :
    (run host args).run printed =
      let performed := (perform host settings action).run printed
      (if performed.1 then 0 else 1, performed.2) := by
  rw [run, hargs]
  dsimp only
  rw [hsettings, pure_bind]
  rfl

theorem startService_of_ok {host : Host (StateM String)}
    (hdialect : Service.dialectFor settings = .ok dialect)
    (hlink : host.openLink settings.network = pure (.ok link)) :
    startService host settings = pure (.ok (.new settings dialect link)) := by
  rw [startService, hdialect]
  dsimp only
  rw [hlink, pure_bind]
  rfl

/-- **A run** that starts and ends cleanly, whatever the commands come to. -/
theorem perform_run (hdialect : Service.dialectFor settings = .ok dialect)
    (hlink : openLink settings.network = .ok link)
    (hbuffer : settings.network.receiveBuffer.toNat ≤ Reception.maxCapacity)
    {answers : List Answer} {after : Service}
    (hanswers : Answers meets (.new settings dialect link) answers after)
    (hcommands : answers.map (·.command) = commands input) (printed : String) :
    (perform (scriptedUnder contents openLink meets input) settings .run).run printed =
      (input.all isSound && answers.all (·.outcome.success), printed ++ printout answers) := by
  have hstart : startService (scriptedUnder contents openLink meets input) settings =
      pure (.ok (.new settings dialect link)) :=
    startService_of_ok hdialect (congrArg pure hlink)
  have hsettled : (Service.new settings dialect link).bridge.Settled :=
    Service.settled_new settings dialect link
  obtain ⟨-, hreceiver, -⟩ := hanswers.roll hsettled
  -- Nothing that is executed faults the receiver, so the service stops cleanly.
  have hshut : after.shutdown.1 = .ok () :=
    Service.shutdown_of_receiver (hreceiver.trans (Service.new_atWork dialect link hbuffer).1.receiver)
  let host := scriptedUnder contents openLink meets input
  have hbatch : Answers meets ({ service := .new settings dialect link } : Batch).service answers
      after := hanswers
  have hfold : (host.foldInput (Batch.take host) { service := .new settings dialect link }).run
      printed = pure _ := foldlM_take hbatch hcommands printed
  rw [perform, hstart, pure_bind]
  dsimp only
  rw [StateT.run_bind, hfold, pure_bind]
  dsimp only
  rw [hshut, Bool.true_and]
  rfl

/-- **Every command of the input is answered once, and the exit code says whether all was well.** The
program starts and ends cleanly, and each command meets with whatever it meets with. Then the commands
are executed one after another in the order of their lines: each gets the first number that is free
behind the one before (`Answers`), one line is printed with its outcome, and there are no requests but
theirs, with these numbers. The exit code is 0 if no line was anything but a command, blank or a
comment, and every outcome is a success, and it is 1 otherwise.

Else some command finds every number in use and gets no answer, which takes an outstanding request for
each of `numberCount` commands before it, and such a run does not come to its end. -/
theorem run_answers_commands {args : List String} {options : Options}
    (hargs : parse args = .act options .run)
    (hsettings : loadSettings (scriptedUnder contents openLink meets input) options =
      pure (.ok settings))
    (hdialect : Service.dialectFor settings = .ok dialect)
    (hlink : openLink settings.network = .ok link)
    (hbuffer : settings.network.receiveBuffer.toNat ≤ Reception.maxCapacity) (printed : String) :
    (∃ answers after, Answers meets (.new settings dialect link) answers after ∧
      answers.map (·.command) = commands input ∧
      (run (scriptedUnder contents openLink meets input) args).run printed =
        (if input.all isSound && answers.all (·.outcome.success) then 0 else 1,
          printed ++ printout answers) ∧
      (∀ answer ∈ answers, '\n' ∉ answer.outcome.toJson.toList) ∧
      after.bridge.roll = answers.map fun answer => (answer.number, answer.command)) ∨
    ∃ answers command rest busy,
      commands input = answers.map (·.command) ++ command :: rest ∧
      Answers meets (.new settings dialect link) answers busy ∧
      busy.executeUnder (meets busy command) command = none ∧
      Registry.numberCount ≤ (busy.meet (meets busy command)).bridge.outstanding ∧
      Registry.numberCount ≤ answers.length := by
  have hsettled : (Service.new settings dialect link).bridge.Settled :=
    Service.settled_new settings dialect link
  have hroll : (Service.new settings dialect link).bridge.roll = [] := by
    rw [Service.bridge_new]
    rfl
  -- The commands have answers to the last, or there is a first one that finds no free number.
  rcases Service.exists_answers hsettled (commands input) with
    ⟨answers, after, hanswers, hcommands⟩ |
    ⟨answers, command, rest, busy, hsplit, hanswers, hnone, hfull⟩
  · refine Or.inl ⟨answers, after, hanswers, hcommands, ?_, fun answer _ =>
      answer.outcome.newline_notMem_toJson, ?_⟩
    · have hperform : (perform (scriptedUnder contents openLink meets input) settings .run).run
          printed = _ := perform_run hdialect hlink hbuffer hanswers hcommands printed
      rw [run_of_act hargs hsettings, hperform]
    · rw [(hanswers.roll hsettled).2.2, hroll, List.nil_append]
  · refine Or.inr ⟨answers, command, rest, busy, hsplit, hanswers, hnone, hfull, ?_⟩
    have hcount := hanswers.numberCount_le hsettled hfull
    rwa [hroll, List.length_nil, Nat.zero_add] at hcount

/-- A blank line, a comment and a line that is no command stand before two commands, of which one is
answered and the other meets with a link that refuses it. -/
theorem run_answers_commands_refused :
    let contents : String → Except IoFault (List UInt8) := fun _ => .error .noSuchFile
    let openLink : NetworkSettings → Except Error Link := fun _ => .ok {}
    let meets : Service → Command → Circumstances := fun service _ =>
      if service.bridge.requests.isEmpty then
        { link := service.bridge.link
          clock := ⟨0, 0⟩
          farEnd := fun _ => [.ofMessage ⟨1, 17, 5, 1, 1, "OK"⟩ ⟨0, 0⟩] }
      else { link := service.bridge.link.refuse true, clock := ⟨0, 0⟩, farEnd := fun _ => [] }
    let input := ["", " # the first", "STOP", "\x7b\"type\":\"Stop\"\x7d",
      "[\"Show\",\"AZIMUTH\"]"]
    let ran : UInt32 × String := (run (scriptedUnder contents openLink meets input) ["run"]).run ""
    let printed :=
      "\x7b\"success\":true,\"code\":0,\"message\":\"\",\"values\":[]\x7d\n\x7b\"success\":false," ++
        "\"code\":700002,\"message\":\"I/O error: mock send failure\",\"values\":[]\x7d\n"
    ran = (1, printed) ∧ ∃ answers after, Answers meets (.new {} .tcs {}) answers after ∧
      answers.map (·.command) = [.stop, .query "AZIMUTH"] ∧ printout answers = printed := by
  intro contents openLink meets input ran printed
  have hran : ran = (1, printed) := by decide +kernel
  have hcommands : commands input = [.stop, .query "AZIMUTH"] := by decide +kernel
  have hargs : parse ["run"] = .act {} .run := by decide
  have hsettings : loadSettings (scriptedUnder contents openLink meets input) {} =
      pure (.ok {}) := rfl
  have hdialect : Service.dialectFor {} = .ok .tcs := rfl
  have hlink : openLink ({} : Settings).network = .ok {} := rfl
  rcases run_answers_commands hargs hsettings hdialect hlink (by decide) "" with
    ⟨answers, after, hanswers, hmap, hprinted, -⟩ |
    ⟨answers, command, rest, -, hsplit, -, -, -, hcount⟩
  · have hprintout : ran.2 = "" ++ printout answers := congrArg Prod.snd hprinted
    rw [hran, String.empty_append] at hprintout
    exact ⟨hran, answers, after, hanswers, hmap.trans hcommands, hprintout.symm⟩
  · -- Two commands cannot use up the numbers.
    have hlength := congrArg List.length (hcommands.symm.trans hsplit)
    have hnumbers : 2 < Registry.numberCount := by decide
    rw [List.length_append, List.length_map, List.length_cons] at hlength
    simp only [List.length_cons, List.length_nil] at hlength
    omega

end Run

end TelescopeLink.CommandLine
