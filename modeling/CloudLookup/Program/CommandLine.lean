import CloudLookup.Lookup.Basic

/-! The command line: options and the texts about them. -/
namespace CloudLookup.Program

structure Options where
  key : String
  region : Option String
  /-- The least level that is logged; none for no log. -/
  logLevel : Option Level
  deriving DecidableEq, Repr

inductive Command where
  | resolve (options : Options)
  | help
  | version
  | misused
  deriving DecidableEq, Repr

inductive Setting where
  | key
  | region
  | logLevel
  deriving DecidableEq, Repr

structure Draft where
  key : Option String := none
  region : Option String := none
  logLevel : Option (Option Level) := none

def levelNames : List (String × Option Level) :=
  [("off", none), ("error", some .error), ("warn", some .warn), ("info", some .info),
   ("debug", some .debug), ("trace", some .trace)]

/-- Sets an option, which must not have been set. -/
def Draft.set? (d : Draft) (setting : Setting) (value : String) : Option Draft :=
  match setting with
  | .key => if d.key.isSome then none else some { d with key := some value }
  | .region => if d.region.isSome then none else some { d with region := some value }
  | .logLevel =>
    match d.logLevel, levelNames.lookup value with
    | none, some level => some { d with logLevel := some level }
    | _, _ => none

def Draft.command (d : Draft) : Command :=
  match d.key with
  | some key => .resolve ⟨key, d.region, d.logLevel.getD none⟩
  | none => .misused

inductive Word where
  | option (setting : Setting)
  | valued (setting : Setting) (value : String)
  | help
  | version
  | ending
  | unexpected
  deriving DecidableEq, Repr

def longWord (name : String) (value : Option String) : Word :=
  let ofSetting (setting : Setting) : Word :=
    match value with
    | some value => .valued setting value
    | none => .option setting
  match name, value with
  | "key", _ => ofSetting .key
  | "region", _ => ofSetting .region
  | "log-level", _ => ofSetting .logLevel
  | "help", none => .help
  | "version", none => .version
  | _, _ => .unexpected

/-- The word of an option's letter and what follows it. The value may come after an equals sign. -/
def shortWord (letter : Char) (rest : List Char) : Word :=
  let ofSetting (setting : Setting) : Word :=
    match rest with
    | [] => .option setting
    | '=' :: value => .valued setting (String.ofList value)
    | value => .valued setting (String.ofList value)
  match letter with
  | 'k' => ofSetting .key
  | 'r' => ofSetting .region
  | 'h' => .help
  | 'V' => .version
  | _ => .unexpected

def wordOf (argument : String) : Word :=
  match argument.toList with
  | ['-', '-'] => .ending
  | '-' :: '-' :: long =>
    let name := long.takeWhile (· ≠ '=')
    let value := (long.dropWhile (· ≠ '=')).tail?.map String.ofList
    longWord (String.ofList name) value
  | '-' :: letter :: rest => shortWord letter rest
  | _ => .unexpected

def isValue (argument : String) : Bool :=
  match argument.toList with
  | '-' :: _ :: _ => false
  | _ => true

/-- What the arguments ask for after the options that have been read. The first that asks for
anything else decides. -/
def readArguments (d : Draft) : List String → Command
  | [] => d.command
  | argument :: rest =>
    match wordOf argument, rest with
    | .help, _ => .help
    | .version, _ => .version
    | .unexpected, _ => .misused
    | .ending, [] => d.command
    | .ending, _ :: _ => .misused
    | .valued setting value, rest =>
      match d.set? setting value with
      | some d => readArguments d rest
      | none => .misused
    | .option _, [] => .misused
    | .option setting, value :: rest =>
      if isValue value then
        match d.set? setting value with
        | some d => readArguments d rest
        | none => .misused
      else .misused

def command (arguments : List String) : Command := readArguments {} arguments

def versionText : String := "aws-resolvers 0.2.1\n"

def helpText : String :=
  "Resolve an AWS key (supported prefixes: ecs, ess, kinesis, dynamodb, rds, ec2)\n\n" ++
  "Usage: aws-resolvers [OPTIONS] --key <KEY>\n\n" ++
  "Options:\n" ++
  "  -k, --key <KEY>              The key to resolve, e.g. aws:kinesis:my-stream:StreamARN\n" ++
  "  -r, --region <REGION>        AWS region to use\n" ++
  "      --log-level <LOG_LEVEL>  Log level for debugging [default: off] " ++
  "[possible values: off, error, warn, info, debug, trace]\n" ++
  "  -h, --help                   Print help\n" ++
  "  -V, --version                Print version\n"

def misuseText : String := "Usage: aws-resolvers [OPTIONS] --key <KEY>\n"

end CloudLookup.Program
