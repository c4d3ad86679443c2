import TelescopeLink.Command.Json
import TelescopeLink.Outcome.Json
import TelescopeLink.Service
import TelescopeLink.Settings.Toml

/-!
# The command line

Options come before the action: `--config PATH` or `-c PATH` names the file of settings and
`--dialect NAME` or `-d NAME` replaces the dialect in them. A value may also be joined to its
option, by an equals sign or, behind the short form, directly. The actions are `send` with a command
in JSON, `run`, which takes commands from the input line by line, and `config`, which shows the
settings. In place of one, `help` tells how to use them all or the one that is named behind it.

Everything is decided here; what is outside (files, the link, the input, printing) is reached
through a `Host`, which may be the system or a script.
-/

namespace TelescopeLink

namespace CommandLine

/-! ## Arguments -/

/-- What is to be done. -/
inductive Action
  /-- One command, as a JSON text. -/
  | send (json : String)
  /-- Every command of the input. -/
  | run
  /-- Show the settings. -/
  | config
deriving DecidableEq

/-- The options of a command line. -/
structure Options where
  config : Option String := none
  dialect : Option String := none
deriving DecidableEq

/-- What a command line asks for. -/
inductive Request
  | act (options : Options) (action : Action)
  | help
  | version
  | invalid
deriving DecidableEq

/-- An option. -/
inductive OptionName
  | config
  | dialect
deriving DecidableEq

/-- The options with one more value, unless the option was given before or a path is empty. -/
def Options.set (options : Options) (name : OptionName) (value : String) : Option Options :=
  match name with
  | .config =>
    if options.config.isSome || value.isEmpty then none
    else some { options with config := some value }
  | .dialect => if options.dialect.isSome then none else some { options with dialect := some value }

/-- An argument as it reads in front of an action. -/
inductive Argument
  /-- An option whose value is the next argument. -/
  | option (name : OptionName)
  | optionWith (name : OptionName) (value : String)
  | help
  | version
  | word (text : String)
  | unknown
deriving DecidableEq

/-- An argument that is an option or asks for one, whatever it is. -/
def looksLikeOption (arg : String) : Bool :=
  match arg.toList with
  | '-' :: _ :: _ => true
  | _ => false

/-- The long options. -/
def longArgument (name : List Char) : Argument :=
  let head := name.takeWhile (· ≠ '=')
  let value := name.dropWhile (· ≠ '=')
  let valued (option : OptionName) : Argument :=
    match value with
    | [] => .option option
    | _ :: value => .optionWith option (String.ofList value)
  if head = "config".toList then valued .config
  else if head = "dialect".toList then valued .dialect
  else if name = "help".toList then .help
  else if name = "version".toList then .version
  else .unknown

/-- The short options. -/
def shortArgument (letter : Char) (rest : List Char) : Argument :=
  let valued (option : OptionName) : Argument :=
    match rest with
    | [] => .option option
    | '=' :: value => .optionWith option (String.ofList value)
    | value => .optionWith option (String.ofList value)
  if letter = 'c' then valued .config
  else if letter = 'd' then valued .dialect
  else if letter = 'h' then .help
  else if letter = 'V' then .version
  else .unknown

/-- How an argument reads in front of an action. -/
def Argument.ofString (arg : String) : Argument :=
  match arg.toList with
  | ['-', '-'] => .unknown
  | '-' :: '-' :: name => longArgument name
  | '-' :: letter :: rest => shortArgument letter rest
  | _ => .word arg

/-- What stands behind an action. -/
inductive ActionArguments
  | words (words : List String)
  | help
  | invalid
deriving DecidableEq

/-- So many words, neither more nor fewer. -/
def ActionArguments.ofWords (count : Nat) (words : List String) : ActionArguments :=
  if words.length = count then .words words else .invalid

/-- The arguments behind an action that takes `count` of them, of which some are taken already. A
double hyphen ends the options, of which an action has none but the one for help. -/
def actionArguments (count : Nat) (taken : List String) : List String → ActionArguments
  | [] => .ofWords count taken
  | arg :: rest =>
    if arg = "--" then .ofWords count (taken ++ rest)
    else if looksLikeOption arg then
      match Argument.ofString arg with
      | .help => .help
      | _ => .invalid
    else if taken.length = count then .invalid
    else actionArguments count (taken ++ [arg]) rest

/-- What help can be asked about: the actions, and help itself. -/
def helpTopics : List String := ["send", "run", "config", "help"]

/-- An action with the arguments behind it. -/
def act (options : Options) (name : String) (args : List String) : Request :=
  let taking (count : Nat) (action : List String → Option Action) : Request :=
    match actionArguments count [] args with
    | .help => .help
    | .invalid => .invalid
    | .words words =>
      match action words with
      | some action => .act options action
      | none => .invalid
  if name = "send" then taking 1 fun words => words.head?.map Action.send
  else if name = "run" then taking 0 fun _ => some .run
  else if name = "config" then taking 0 fun _ => some .config
  else if name = "help" then
    match args with
    | [] => .help
    | [topic] => if topic ∈ helpTopics then .help else .invalid
    | _ => .invalid
  else .invalid

/-- What a command line asks for, behind some options. -/
def parseFrom (options : Options) : List String → Request
  | [] => .invalid
  | arg :: rest =>
    match Argument.ofString arg with
    | .word name => act options name rest
    | .optionWith name value =>
      match options.set name value with
      | some options => parseFrom options rest
      | none => .invalid
    | .option name =>
      match rest with
      | [] => .invalid
      | value :: rest =>
        if looksLikeOption value then .invalid
        else
          match options.set name value with
          | some options => parseFrom options rest
          | none => .invalid
    | .help => .help
    | .version => .version
    | .unknown => .invalid

/-- What a command line asks for. -/
def parse (args : List String) : Request := parseFrom {} args

/-! ## Acting -/

/-- Where settings are looked for that no option names. -/
def defaultPath : String := "/etc/cil-proxy.toml"

/-- What a run over lines has come to. -/
structure Batch where
  service : Service
  /-- Every line so far was a command and succeeded, or asked for nothing. -/
  allOk : Bool := true

/-- What a program runs on. -/
structure Host (m : Type → Type) where
  /-- The bytes of a file. -/
  contents : String → m (Except IoFault (List UInt8))
  openLink : NetworkSettings → m (Except Error Link)
  /-- Submits a command and waits for the outcome. -/
  execute : Service → Command → m (Option (Outcome × Service))
  /-- Takes the lines of the input one after another. -/
  foldInput : (Batch → String → m Batch) → Batch → m Batch
  /-- Prints a text. -/
  print : String → m Unit
  /-- Tells the user what went wrong. -/
  warn : String → m Unit

variable {m : Type → Type} [Monad m]

/-- The settings to act with. -/
def loadSettings (host : Host m) (options : Options) : m (Except Error Settings) := do
  let file ← host.contents (options.config.getD defaultPath)
  return do
    let settings ← match file, options.config with
      | .ok bytes, _ => Settings.ofFile bytes
      -- Only the standard file may be missing.
      | .error .noSuchFile, none => pure {}
      | .error fault, _ => throw (.io fault)
    match options.dialect with
    | some dialect => return { settings with proxy := { settings.proxy with dialect } }
    | none => return settings

/-- A service with the link that its settings describe. -/
def startService (host : Host m) (settings : Settings) : m (Except Error Service) := do
  match Service.dialectFor settings with
  | .error error => return .error error
  | .ok dialect => return (← host.openLink settings.network).map (Service.new settings dialect)

/-- Gives up because of an error. -/
def giveUp (host : Host m) (error : Error) : m Bool := do
  host.warn error.message
  return false

/-- Executes a command and prints its outcome on a line; whether it succeeded. -/
def executeAndPrint (host : Host m) (service : Service) (command : Command) :
    m (Bool × Service) := do
  match ← host.execute service command with
  | none => return (false, service)
  | some (outcome, service) =>
    host.print (outcome.toJson ++ "\n")
    return (outcome.success, service)

/-- A line that asks for nothing: blank, or a comment. -/
def isIdle (line : List Char) : Bool :=
  match line with
  | [] => true
  | c :: _ => c == '#'

/-- Takes one line. A line that is no command spoils the run and does nothing else. -/
def Batch.take (host : Host m) (batch : Batch) (line : String) : m Batch := do
  let line := Text.trim line.toList
  if isIdle line then return batch
  else
    match Command.ofJson (String.ofList line) with
    -- The service is not asked, so no number is used up.
    | .error fault => return { batch with allOk := ← giveUp host (.json fault) }
    | .ok command =>
      let (success, service) ← executeAndPrint host batch.service command
      return { service, allOk := batch.allOk && success }

/-- Performs an action; whether all went well. -/
def perform (host : Host m) (settings : Settings) (action : Action) : m Bool := do
  match action with
  | .config =>
    match settings.toToml with
    | .error error => giveUp host error
    | .ok text =>
      host.print text
      return true
  | .send json =>
    match Command.ofJson json with
    | .error fault => giveUp host (.json fault)
    | .ok command =>
      match ← startService host settings with
      | .error error => giveUp host error
      | .ok service =>
        let (success, service) ← executeAndPrint host service command
        match service.shutdown.1 with
        | .error error => giveUp host error
        | .ok () => return success
  | .run =>
    match ← startService host settings with
    | .error error => giveUp host error
    | .ok service =>
      let batch ← host.foldInput (Batch.take host) { service }
      match batch.service.shutdown.1 with
      | .error error => giveUp host error
      | .ok () => return batch.allOk

/-- How to use the program. -/
def usage : String :=
  String.join (["Usage: [OPTIONS] <COMMAND>",
    "",
    "Commands:",
    "  send <COMMAND>  Execute one JSON-encoded command and print its result",
    "  run             Execute JSON commands read from stdin, one per line",
    "  config          Print the effective configuration",
    "  help            Print this message",
    "",
    "Options:",
    "  -c, --config <CONFIG>    Configuration file path",
    "  -d, --dialect <DIALECT>  Override the configured wire dialect (tcs, simulator)",
    "  -h, --help               Print help",
    "  -V, --version            Print version"].map (· ++ "\n"))

/-- The version of the program. -/
def versionText : String := "0.1.0\n"

/-- Does what a command line asks for and gives the exit code: 0 if all went well, 1 if not, and 2
for a command line that makes no sense. -/
def run (host : Host m) (args : List String) : m UInt32 := do
  match parse args with
  | .invalid => return 2
  | .help =>
    host.print usage
    return 0
  | .version =>
    host.print versionText
    return 0
  | .act options action =>
    match ← loadSettings host options with
    | .error error =>
      host.warn ("Failed to load configuration: " ++ error.message)
      return 1
    | .ok settings => return if ← perform host settings action then 0 else 1

/-! ## Without a system -/

/-- A host that is given everything beforehand: files, links, the far end and the lines of the
input. What is printed is kept. -/
def scripted (contents : String → Except IoFault (List UInt8))
    (openLink : NetworkSettings → Except Error Link) (farEnd : FarEnd) (input : List String) :
    Host (StateM String) where
  contents path := pure (contents path)
  openLink settings := pure (openLink settings)
  execute service command := pure (service.execute farEnd command)
  foldInput step batch := input.foldlM step batch
  print text := modify (· ++ text)
  warn _ := pure ()

end CommandLine

end TelescopeLink
