import Vigil.Duration.Text

/-!
# Command Lines

The options that probes are run with. An option that takes a value takes it after an equals sign or
as the next argument, unless that begins with a hyphen. The value of the next argument is read only
when the argument after it is looked at, so an argument that is not known is reported before a value
that is not good.
-/

namespace Vigil

/-- What the command line asks for. -/
structure Options where
  /-- The path of the configuration. -/
  config : Option String := none
  /-- The probes to run, all if there are none. -/
  probes : List String := []
  timeout : Option Duration := none
  failureOnTimeout : Bool := false
  json : Bool := false
  deriving DecidableEq, Repr

/-- Why a command line asks for no run. -/
inductive Usage
  | unknownArgument (argument : String)
  | missingValue (option : String)
  /-- An option that may be given once was given again. -/
  | repeated (option : String)
  /-- An option that takes no value was given one. -/
  | unexpectedValue (option : String)
  | badValue (option value : String)
  | help
  | version
  deriving DecidableEq, Repr

/-- Whether a usage is a wish and not a mistake. -/
def Usage.isWish : Usage → Bool
  | help => true
  | version => true
  | _ => false

namespace CommandLine

/-- The options that take a value. -/
inductive Setting
  | config | probe | timeout
  deriving DecidableEq, Repr

/-- The options that take none. -/
inductive Switch
  | failureOnTimeout | json | help | version
  deriving DecidableEq, Repr

/-- An option as it is written. -/
def Setting.text : Setting → String
  | config => "--config"
  | probe => "--probe"
  | timeout => "--timeout"

/-- An option as it is written. -/
def Switch.text : Switch → String
  | failureOnTimeout => "--return-failure-on-timeout"
  | json => "--json"
  | help => "--help"
  | version => "--version"

/-- The options that take a value, in the order of the help. -/
def settings : List Setting := [.config, .probe, .timeout]

/-- The options that take none, in the order of the help. -/
def switches : List Switch := [.failureOnTimeout, .json, .help, .version]

/-- The options with one more that takes a value. -/
def take (o : Options) (setting : Setting) (value : Option String) : Except Usage Options :=
  match value, setting with
  | none, _ => .error (.missingValue setting.text)
  | some value, .config =>
    if o.config.isSome then .error (.repeated setting.text)
    else if value.isEmpty then .error (.missingValue setting.text)
    else .ok { o with config := some value }
  | some value, .probe => .ok { o with probes := o.probes ++ [value] }
  | some value, .timeout =>
    if o.timeout.isSome then .error (.repeated setting.text)
    else
      match Duration.ofText? value with
      | some d => .ok { o with timeout := some d }
      | none => .error (.badValue setting.text value)

/-- The options with one more that takes none. -/
def turnOn (o : Options) : Switch → Except Usage Options
  | .failureOnTimeout =>
    if o.failureOnTimeout then .error (.repeated Switch.failureOnTimeout.text)
    else .ok { o with failureOnTimeout := true }
  | .json => if o.json then .error (.repeated Switch.json.text) else .ok { o with json := true }
  | .help => .error .help
  | .version => .error .version

/-- An option whose value has not been read, with the value if there is one. -/
abbrev Pending := Option (Setting × Option String)

/-- The options with the pending one read. -/
def settle (o : Options) : Pending → Except Usage Options
  | none => .ok o
  | some (setting, value) => take o setting value

/-- One argument by its form. -/
inductive Form
  /-- Two hyphens alone, after which nothing is an option. -/
  | terminator
  /-- The name after two hyphens, and the value after an equals sign. -/
  | long (name : String) (value : Option String)
  /-- The first letter after one hyphen. -/
  | short (letter : Char)
  | plain
  deriving DecidableEq, Repr

/-- The form of an argument. -/
def Form.ofChars : List Char → Form
  | ['-', '-'] => .terminator
  | '-' :: '-' :: name =>
    .long (String.ofList ('-' :: '-' :: name.takeWhile (· ≠ '=')))
      (match name.dropWhile (· ≠ '=') with
        | [] => none
        | _ :: value => some (String.ofList value))
  | '-' :: letter :: _ => .short letter
  | _ => .plain

/-- The switch of a letter. -/
def Switch.ofLetter? : Char → Option Switch
  | 'h' => some .help
  | 'V' => some .version
  | _ => none

/-- The options with the arguments from one on read. -/
def readFrom (o : Options) (pending : Pending) : List String → Except Usage Options
  | [] => settle o pending
  | arg :: rest =>
    match Form.ofChars arg.toList with
    | .terminator =>
      match rest with
      | [] => settle o pending
      | extra :: _ => .error (.unknownArgument extra)
    | .long name value =>
      match settings.find? (·.text == name), switches.find? (·.text == name) with
      | some setting, _ =>
        match settle o pending with
        | .error usage => .error usage
        | .ok o =>
          match value with
          | none => readFrom o (some (setting, none)) rest
          | some value =>
            match take o setting (some value) with
            | .error usage => .error usage
            | .ok o => readFrom o none rest
      | none, some switch =>
        if value.isSome then .error (.unexpectedValue name)
        else
          match (settle o pending).bind (turnOn · switch) with
          | .error usage => .error usage
          | .ok o => readFrom o none rest
      | none, none => .error (.unknownArgument arg)
    | .short letter =>
      match Switch.ofLetter? letter with
      | none => .error (.unknownArgument arg)
      | some switch =>
        match (settle o pending).bind (turnOn · switch) with
        | .error usage => .error usage
        | .ok o => readFrom o none rest
    | .plain =>
      match pending with
      | some (setting, none) => readFrom o (some (setting, some arg)) rest
      | _ => .error (.unknownArgument arg)

/-- The options of a command line. -/
def read (args : List String) : Except Usage Options := readFrom {} none args

/-- The name of the program. -/
def programName : String := "healthprobe-cli"

/-- The name and the number of the release. -/
def versionText : String := programName ++ " 0.1.0\n"

/-- The help. -/
def helpText : String :=
  "Run health probes once and report their status\n\n" ++
  "Usage: " ++ programName ++ " [OPTIONS]\n\n" ++
  "Options:\n" ++
  "      --config <PATH>              Configuration file (searched in standard locations when omitted)\n" ++
  "      --probe <NAME>               Probe to run; repeat to run several (default: all)\n" ++
  "      --timeout <DUR>              Time budget per probe, e.g. 500ms or 2s (overrides run.timeout)\n" ++
  "      --return-failure-on-timeout  Report checks cut off by the timeout as failed instead of aborting the probe\n" ++
  "      --json                       Print one JSON report per line\n" ++
  "  -h, --help                       Print help\n" ++
  "  -V, --version                    Print version\n"

/-- The wording of a mistake. -/
def mistakeText : Usage → String
  | .unknownArgument a => "error: unexpected argument '" ++ a ++ "' found\n"
  | .missingValue o => "error: a value is required for '" ++ o ++ "' but none was supplied\n"
  | .repeated o => "error: the argument '" ++ o ++ "' cannot be used multiple times\n"
  | .unexpectedValue o => "error: unexpected value for '" ++ o ++ "' found; no more were expected\n"
  | .badValue o v => "error: invalid value '" ++ v ++ "' for '" ++ o ++ "'\n"
  | .help => helpText
  | .version => versionText

end CommandLine

end Vigil
