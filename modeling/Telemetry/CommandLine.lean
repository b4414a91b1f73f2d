/-
This file reads the command line and decides what is to be done.

Options come before the command. An option has its value in the next argument or in the same one,
after an equals sign or, where it is written with one letter, directly behind that. The next
argument cannot be the value when it looks like an option itself. The file of the settings and the
log level can be given once, the filter as often as wanted.
-/

import Telemetry.Agent
import Telemetry.LogFilter
import Telemetry.Settings.Loading

namespace Telemetry

/-! ### Arguments -/

/-- What the program is asked for. -/
inductive Command where
  /-- Collect and write points until a signal comes. -/
  | run
  /-- Print the version. -/
  | version
  /-- Print the names of the collectors that would run. -/
  | list
  deriving DecidableEq, Repr

/-- What help is about: the program or one of its commands. -/
inductive Topic where
  | program
  | version
  | list
  | help
  deriving DecidableEq, Repr

/-- The options with a value. -/
inductive CommandOption where
  | config
  | logLevel
  | filter
  deriving DecidableEq, Repr

/-- The arguments when they ask for a command. -/
structure Invocation where
  config : Option String
  logLevel : Option String
  filter : List String
  command : Command
  deriving DecidableEq, Repr

/-- What the arguments ask for. -/
inductive Demand where
  | help (topic : Topic)
  | invoke (invocation : Invocation)
  deriving DecidableEq, Repr

/-- Why the arguments are refused. -/
inductive UsageError where
  | unexpected (argument : String)
  | missingValue (option : CommandOption)
  | repeated (option : CommandOption)
  | unknownTopic (name : String)
  deriving DecidableEq, Repr

namespace CommandOption

/-- The long name of an option. -/
def name : CommandOption → String
  | .config => "config"
  | .logLevel => "log-level"
  | .filter => "filter"

/-- The option with a long name. -/
def ofName? (name : String) : Option CommandOption :=
  [CommandOption.config, .logLevel, .filter].find? fun option => option.name == name

/-- The option with a short name. -/
def ofLetter? : Char → Option CommandOption
  | 'c' => some .config
  | 'f' => some .filter
  | _ => none

end CommandOption

/-- The wording of a refusal. -/
def UsageError.message : UsageError → String
  | .unexpected argument => "unexpected argument '" ++ argument ++ "' found"
  | .missingValue option => "a value is required for '--" ++ option.name ++ "'"
  | .repeated option => "the argument '--" ++ option.name ++ "' cannot be used multiple times"
  | .unknownTopic name => "unrecognized subcommand '" ++ name ++ "'"

namespace Invocation

/-- The invocation without arguments. -/
def plain : Invocation := ⟨none, none, [], .run⟩

/-- The invocation with a value for an option. The file of the settings must have a name. -/
def set (invocation : Invocation) (option : CommandOption) (value : String) :
    Except UsageError Invocation :=
  match option with
  | .config =>
    if value = "" then .error (.missingValue .config)
    else if invocation.config.isSome then .error (.repeated .config)
    else .ok { invocation with config := some value }
  | .logLevel =>
    if invocation.logLevel.isSome then .error (.repeated .logLevel)
    else .ok { invocation with logLevel := some value }
  | .filter => .ok { invocation with filter := invocation.filter ++ [value] }

end Invocation

/-- What a single argument says. -/
inductive Argument where
  | command (command : Command)
  | help
  /-- The command that prints help. -/
  | helpCommand
  /-- No options follow any more. -/
  | escape
  /-- An option, with its value if that is in the same argument. -/
  | given (option : CommandOption) (value : Option String)
  | unknown
  deriving DecidableEq, Repr

namespace Argument

/-- Reads a long option, without the two hyphens. -/
def ofLong (text : String) : Argument :=
  let (name, value) := match splitOnce '=' text with
    | some (name, value) => (name, some value)
    | none => (text, none)
  match CommandOption.ofName? name with
  | some option => .given option value
  | none => if text = "help" then .help else .unknown

/-- Reads a short option, without the hyphen. -/
def ofShort : List Char → Argument
  | [] => .unknown
  | 'h' :: _ => .help
  | letter :: rest =>
    match CommandOption.ofLetter? letter with
    | none => .unknown
    | some option =>
      match rest with
      | [] => .given option none
      | '=' :: value => .given option (some (String.ofList value))
      | value => .given option (some (String.ofList value))

/-- Reads an argument. -/
def ofText (text : String) : Argument :=
  match text.toList with
  | ['-', '-'] => .escape
  | '-' :: '-' :: rest => ofLong (String.ofList rest)
  | '-' :: rest => ofShort rest
  | _ =>
    match text with
    | "version" => .command .version
    | "list" => .command .list
    | "help" => .helpCommand
    | _ => .unknown

/-- Whether an argument can be the value of the option before it. -/
def isValue (text : String) : Bool :=
  match text.toList with
  | '-' :: _ :: _ => false
  | _ => true

end Argument

/-- Reads the arguments after a command, which takes none. -/
def Command.finish (command : Command) (topic : Topic) (invocation : Invocation) :
    List String → Except UsageError Demand
  | [] => .ok (.invoke { invocation with command := command })
  | argument :: rest =>
    match Argument.ofText argument, rest with
    | .help, _ => .ok (.help topic)
    | .escape, [] => .ok (.invoke { invocation with command := command })
    | .escape, other :: _ => .error (.unexpected other)
    | _, _ => .error (.unexpected argument)

/-- The topic with a name. -/
def Topic.ofName? : String → Option Topic
  | "version" => some .version
  | "list" => some .list
  | "help" => some .help
  | _ => none

/-- What help is asked for by the arguments after the command that prints it. -/
def Topic.ofArguments : List String → Except UsageError Demand
  | [] => .ok (.help .program)
  | name :: rest =>
    match Topic.ofName? name, rest with
    | none, _ => .error (.unknownTopic name)
    | some topic, [] => .ok (.help topic)
    | some _, other :: _ => .error (.unknownTopic other)

/-- Reads arguments, after others that led to an invocation. -/
def Demand.ofArguments (invocation : Invocation) :
    List String → Except UsageError Demand
  | [] => .ok (.invoke invocation)
  | argument :: rest =>
    match Argument.ofText argument with
    | .command .version => Command.version.finish .version invocation rest
    | .command command => command.finish .list invocation rest
    | .help => .ok (.help .program)
    | .helpCommand => Topic.ofArguments rest
    | .escape =>
      match rest with
      | [] => .ok (.invoke invocation)
      | other :: _ => .error (.unexpected other)
    | .given option (some value) => do Demand.ofArguments (← invocation.set option value) rest
    | .given option none =>
      match rest with
      | [] => .error (.missingValue option)
      | value :: others =>
        if Argument.isValue value then do Demand.ofArguments (← invocation.set option value) others
        else .error (.missingValue option)
    | .unknown => .error (.unexpected argument)

/-! ### Help -/

/-- The lines of a help text. -/
def Topic.lines : Topic → List String
  | .program =>
    ["Host telemetry agent writing datapoints as JSON lines on stdout",
     "",
     "Usage: hostcollect [OPTIONS] [COMMAND]",
     "",
     "Commands:",
     "  version  Print version information and exit",
     "  list     Print the names of the collectors that would run, then exit",
     "  help     Print this message or the help of the given subcommand(s)",
     "",
     "Options:",
     "  -c, --config <CONFIG>        Path to the YAML configuration file. " ++
       "Defaults apply when omitted",
     "      --log-level <LOG_LEVEL>  Logging verbosity level (trace, debug, info, warn, error). " ++
       "Overrides \x60log_level\x60 from the config file",
     "  -f, --filter <FILTER>        Only run collectors whose name contains " ++
       "one of these substrings",
     "  -h, --help                   Print help"]
  | .version =>
    ["Print version information and exit",
     "",
     "Usage: hostcollect version",
     "",
     "Options:",
     "  -h, --help  Print help"]
  | .list =>
    ["Print the names of the collectors that would run, then exit",
     "",
     "Usage: hostcollect list",
     "",
     "Options:",
     "  -h, --help  Print help"]
  | .help =>
    ["Print this message or the help of the given subcommand(s)",
     "",
     "Usage: hostcollect help [COMMAND]...",
     "",
     "Arguments:",
     "  [COMMAND]...  Print help for the subcommand(s)"]

/-! ### What is done -/

/-- What stops a command before it begins. -/
inductive CommandError where
  | config (path : String) (cause : LoadingError)
  | logLevel (text : String)
  | start (cause : StartError)
  deriving DecidableEq, Repr

namespace CommandError

/-- The wording of the error. -/
def message : CommandError → String
  | .config path _ => "loading config from " ++ path
  | .logLevel text => "invalid log level: " ++ text
  | .start cause => cause.message

/-- The wording of what caused the error, if that says more. -/
def causes : CommandError → List String
  | .config _ cause => [cause.message]
  | .logLevel _ => ["invalid filter directive"]
  | .start _ => []

end CommandError

/-- What the program leaves behind where it ends by itself: its exit code, the lines it prints, and
the lines of its complaints. -/
structure Report where
  code : Nat
  lines : List String
  complaints : List String
  deriving DecidableEq, Repr

namespace Report

/-- A report of success. -/
def success (lines : List String) : Report := ⟨0, lines, []⟩

/-- The report that refuses the arguments. -/
def ofUsage (error : UsageError) : Report :=
  ⟨2, [], ["error: " ++ error.message, "", "For more information, try '--help'."]⟩

/-- The report of a failure. -/
def ofError (error : CommandError) : Report :=
  let causes := error.causes.map ("    " ++ ·)
  ⟨1, [], ("Error: " ++ error.message) ::
    if causes.isEmpty then [] else "" :: "Caused by:" :: causes⟩

end Report

/-- What arguments lead to: the program ends with a report, or it runs the agent. -/
inductive Response where
  | report (report : Report)
  | run (settings : Settings)
  deriving DecidableEq

/-- The line that states the version. -/
def versionLine : String := "hostcollect 0.1.0 (commit: unknown, linux/x86_64)"

namespace Invocation

/-- The settings of an invocation. The content of a file is given by its path, where the file can be
read. -/
def settings (invocation : Invocation) (content : String → Option Bytes) :
    Except CommandError Settings :=
  match invocation.config with
  | none => .ok (Settings.defaults.withFilter invocation.filter)
  | some path =>
    match Settings.load path (content path) with
    | .ok settings => .ok (settings.withFilter invocation.filter)
    | .error cause => .error (.config path cause)

/-- What an invocation leads to. The version needs no settings, and the log level is read before
anything else is done with them. -/
def respond (invocation : Invocation) (content : String → Option Bytes)
    (folders : String → Option (List FolderEntry)) : Except CommandError Response :=
  match invocation.command with
  | .version => .ok (.report (.success [versionLine]))
  | command => do
    let settings ← invocation.settings content
    let level := invocation.logLevel.getD settings.logLevel
    match LogFilter.ofText? level, command with
    | none, _ => throw (.logLevel level)
    | some _, .list => return .report (.success (settings.selected folders).names)
    | some _, _ => return .run settings

end Invocation

/-- What the arguments of the program lead to. -/
def Response.ofArguments (arguments : List String) (content : String → Option Bytes)
    (folders : String → Option (List FolderEntry)) : Response :=
  match Demand.ofArguments .plain arguments with
  | .error error => .report (.ofUsage error)
  | .ok (.help topic) => .report (.success topic.lines)
  | .ok (.invoke invocation) =>
    match invocation.respond content folders with
    | .ok response => response
    | .error error => .report (.ofError error)

end Telemetry
