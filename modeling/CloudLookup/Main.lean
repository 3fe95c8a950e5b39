import CloudLookup.Http.Wire
import CloudLookup.Program.Basic
import Std.Async.DNS
import Std.Async.TCP
import Std.Time.DateTime.Timestamp

/-! The program on a real machine. It reaches addresses over plain connections; a request to any
other address counts as unanswered. -/
namespace CloudLookup.Main

open Std.Async Std.Net

def addressesOf : Url.Host → IO (List IPAddr)
  | .ipv4 n =>
    let byte (place : Nat) : UInt8 := UInt8.ofNat (n >>> place)
    return [.v4 (IPv4Addr.ofParts (byte 24) (byte 16) (byte 8) (byte 0))]
  | .ipv6 pieces => return [.v6 ⟨Vector.ofFn fun i => UInt16.ofNat (pieces.getD i 0)⟩]
  | .domain name => return (← (DNS.getAddrInfo (String.ofList name) "").block).toList

def endpointOf (address : IPAddr) (port : Nat) : SocketAddress :=
  match address with
  | .v4 address => .v4 ⟨address, UInt16.ofNat port⟩
  | .v6 address => .v6 ⟨address, UInt16.ofNat port⟩

def pieceLimit : Nat := 65536

def exchangeWith (address : IPAddr) (port : Nat) (request : Http.Request) :
    IO (Option Http.Response) := do
  let socket ← TCP.Socket.Client.mk
  (socket.connect (endpointOf address port)).block
  (socket.send (ByteArray.mk request.wire.toArray)).block
  let mut received := ByteArray.empty
  for _ in [0:pieceLimit] do
    match ← (socket.recv? 65536).block with
    | some piece => received := received ++ piece
    | none => break
  return Http.Response.ofWire? received.toList

def exchange (request : Http.Request) : IO (Option Http.Response) := do
  if request.url.scheme ≠ "http".toList then return none
  match request.url.authority, Http.portOf request.url with
  | some authority, some port =>
    try
      match ← addressesOf authority.host with
      | address :: _ => exchangeWith address port request
      | [] => return none
    catch _ => return none
  | _, _ => return none

def variableNames : List String :=
  ["AWS_REGION", "AWS_DEFAULT_REGION", "AWS_ENDPOINT_URL", "AWS_ACCESS_KEY_ID",
   "AWS_SECRET_ACCESS_KEY", "SECRET_ACCESS_KEY", "AWS_SESSION_TOKEN"]

def directory : IO String := do
  let home := (← IO.getEnv "HOME").getD ""
  let base := (← IO.getEnv "XDG_CONFIG_HOME").filter fun path => path.startsWith "/"
  return base.getD (home ++ "/.config") ++ "/aws-resolvers"

/-- The settings file in a directory. What cannot be read is missing. -/
def settingsIn (directory : String) : IO Settings.File :=
  try
    let bytes ← IO.FS.readBinFile (directory ++ "/config.json")
    return .content bytes.toList
  catch _ => return .missing

def openProblem : IO.Error → String
  | .noFileOrDirectory _ code details => s!"{details} (os error {code})"
  | .permissionDenied _ code details => s!"{details} (os error {code})"
  | .inappropriateType _ code details => s!"{details} (os error {code})"
  | e => toString e

def openLog (directory path : String) : IO (Except String IO.FS.Handle) := do
  try IO.FS.createDirAll directory catch _ => pure ()
  try return .ok (← IO.FS.Handle.mk path .append)
  catch e => return .error (openProblem e)

def host : Program.Host IO where
  start logged := do
    let directory ← directory
    let logPath := directory ++ "/aws-resolvers.log"
    let opened ← if logged then some <$> openLog directory logPath else pure none
    let (handle, logProblem) := match opened with
      | some (.ok handle) => (some handle, none)
      | some (.error problem) => (none, some problem)
      | none => (none, none)
    let found ← variableNames.filterMapM fun name => do
      return (← IO.getEnv name).map fun value => (name, value)
    return (⟨found, ← settingsIn directory, logPath, logProblem⟩, fun line => do
      if let some handle := handle then handle.putStrLn line.render)
  respond _ request := exchange request
  now _ := return (← Std.Time.Timestamp.now).toSecondsSinceUnixEpoch.val.toNat

def run (arguments : List String) : IO UInt32 := do
  let (ending, _) ← Program.run host arguments
  IO.print ending.stdout
  IO.eprint ending.stderr
  return UInt32.ofNat ending.exitCode

end CloudLookup.Main

def main (arguments : List String) : IO UInt32 := CloudLookup.Main.run arguments
