import CloudLookup.Client.Network
import CloudLookup.Program.CommandLine
import CloudLookup.Resolve
import CloudLookup.Settings

/-! The program: a command line, the machine it runs on and what it writes. -/
namespace CloudLookup.Program

structure Machine where
  environment : List (String × String)
  settings : Settings.File
  logPath : String
  /-- Why the log cannot be opened, if it cannot. -/
  logProblem : Option String

namespace Machine

def value? (m : Machine) (name : String) : Option String := m.environment.lookup name

def region (m : Machine) : Option String :=
  (m.value? "AWS_REGION").orElse fun _ => m.value? "AWS_DEFAULT_REGION"

/-- The address for requests that the environment names. It does not count when it is malformed. -/
def endpointUrl (m : Machine) : Option String :=
  (m.value? "AWS_ENDPOINT_URL").filter fun url => (Url.parse url.toList).isOk

def filled? (m : Machine) (name : String) : Option String :=
  (m.value? name).filter fun value => !Text.allBlank value

def keys (m : Machine) : Client.Keys :=
  let secret := (m.filled? "AWS_SECRET_ACCESS_KEY").orElse fun _ => m.filled? "SECRET_ACCESS_KEY"
  match m.filled? "AWS_ACCESS_KEY_ID", secret with
  | some accessKey, some secret =>
    .fixed ⟨accessKey, secret, (m.filled? "AWS_SESSION_TOKEN").map Text.trim⟩
  | _, _ =>
    .failing
      ["the credential provider was not enabled", "no providers in chain provided credentials"]

end Machine

structure Ending where
  exitCode : Nat
  stdout : String
  stderr : String
  deriving DecidableEq, Repr

def indent (width : Nat) (text : String) : String :=
  String.ofList (text.toList.flatMap fun c =>
    if c = '\n' then '\n' :: List.replicate width ' ' else [c])

def causeLines : List String → String
  | [] => ""
  | [cause] => "\n\nCaused by:\n    " ++ indent 4 cause
  | causes =>
    let line (cause : String) (i : Nat) : String :=
      let number := Text.decimal i
      let margin := List.replicate (5 - number.length) ' '
      "\n" ++ String.ofList (margin ++ number) ++ ": " ++ indent 7 cause
    "\n\nCaused by:" ++ String.join (causes.zipIdx.map fun (cause, i) => line cause i)

def Ending.ofError (message : String) (causes : List String) : Ending :=
  ⟨1, "", "Error: " ++ message ++ causeLines causes ++ "\n"⟩

def Ending.ofOutcome (key : String) : Except ResolveError (Option Json) → Ending
  | .ok value => ⟨0, (value.getD .null).compact ++ "\n", ""⟩
  | .error e => .ofError s!"Failed to resolve {key}" (e.message :: e.causes)

structure Task where
  client : Client
  key : String
  region : Option String
  strict : Bool

def Task.lookup (t : Task) : Lookup ResolveError (Option Json) := resolve t.key t.region t.strict

def task (options : Options) (m : Machine) : Except Client.Problem Task := do
  let settings := (Settings.load m.settings).settings
  let region := settings.effectiveRegion options.region
  let defaultRegion := region.orElse fun _ => m.region
  let endpointUrl := settings.endpointUrl.orElse fun _ => m.endpointUrl
  let client ← Client.create defaultRegion endpointUrl fun _ => m.keys
  .ok ⟨client, options.key, region, settings.strict⟩

/-- What is said first about a log that was asked for but cannot be opened. -/
def logWarning (options : Options) (m : Machine) : String :=
  match options.logLevel, m.logProblem with
  | some _, some problem => "Cannot open log file \"" ++ m.logPath ++ "\": " ++ problem ++ "\n"
  | _, _ => ""

def rank : Level → Nat
  | .error => 0
  | .warn => 1
  | .info => 2
  | .debug => 3
  | .trace => 4

def shows (level : Option Level) (line : LogLine) : Bool :=
  level.any fun least => rank line.level ≤ rank least

structure Host (m : Type → Type) where
  /-- Finds the machine, and how a line is written to its log. The log is opened if it is asked
  for. -/
  start : Bool → m (Machine × (LogLine → m Unit))
  respond : List Http.Request → Http.Request → m (Option Http.Response)
  now : List Http.Request → m Nat

/-- Runs the program with a command line. It comes to an ending and the requests in the order in
which they were sent. -/
def run [Monad m] (host : Host m) (arguments : List String) : m (Ending × List Http.Request) :=
  match command arguments with
  | .help => return (⟨0, helpText, ""⟩, [])
  | .version => return (⟨0, versionText, ""⟩, [])
  | .misused => return (⟨2, "", misuseText⟩, [])
  | .resolve options => do
    let (machine, write) ← host.start options.logLevel.isSome
    let warned (ending : Ending) : Ending :=
      { ending with stderr := logWarning options machine ++ ending.stderr }
    match task options machine with
    | .error e => return (warned (.ofError e.message e.causes), [])
    | .ok task =>
      let log (line : LogLine) : m Unit :=
        if shows options.logLevel line then write line else return ()
      let (outcome, sent) ← task.client.converse ⟨host.respond, host.now, log⟩ task.lookup []
      return (warned (.ofOutcome options.key outcome), sent)

/-- A machine on a network. Its only effect is on the log, of which there is none until it is
opened. -/
def Host.of (machine : Machine) (network : Network) : Host (StateM (Option (List LogLine))) where
  start logged := do
    if logged && machine.logProblem.isNone then set (some ([] : List LogLine))
    return (machine, fun line => modify (Option.map (· ++ [line])))
  respond sent request := return network.respond sent request
  now sent := return network.now sent

end CloudLookup.Program
