import CloudLookup.Json.Printer
import CloudLookup.Json.Reader
import CloudLookup.Text.Blank

/-! The user's settings and the file that holds them. -/
namespace CloudLookup

structure Settings where
  region : Option String := none
  strict : Bool := true
  endpointUrl : Option String := none
  deriving DecidableEq, Repr

namespace Settings

def standard : Settings := {}

def optionalText : Option String → List Char
  | some s => Json.quote s.toList
  | none => Json.print .null

def render (s : Settings) : String :=
  let member (name : String) (value : List Char) : List Char :=
    Json.quote name.toList ++ ':' :: value
  String.ofList ('\x7b' :: member "region" (optionalText s.region) ++
    ',' :: member "strict" (Json.print (.bool s.strict)) ++
    ',' :: member "endpoint_url" (optionalText s.endpointUrl) ++ ['\x7d'])

def names : List String := ["region", "strict", "endpoint_url"]

def optionalText? : Json → Option (Option String)
  | .null => some none
  | .string s => some (some s)
  | _ => none

def truth? : Json → Option Bool
  | .bool b => some b
  | _ => none

def one? (read : Json → Option α) (default : α) : List Json → Option α
  | [] => some default
  | [value] => read value
  | _ => none

/-- Settings given by name: other names count for nothing, a name twice is an error. -/
def ofMembers? (members : List (String × Json)) : Option Settings := do
  let given (name : String) : List Json :=
    (members.filter fun member => member.1 = name).map Prod.snd
  let region ← one? optionalText? standard.region (given "region")
  let strict ← one? truth? standard.strict (given "strict")
  let endpointUrl ← one? optionalText? standard.endpointUrl (given "endpoint_url")
  some ⟨region, strict, endpointUrl⟩

/-- Settings given by position. The last ones may be missing. -/
def ofItems? (items : List Json) : Option Settings := do
  if names.length < items.length then none
  let region ← one? optionalText? standard.region (items.take 1)
  let strict ← one? truth? standard.strict ((items.drop 1).take 1)
  let endpointUrl ← one? optionalText? standard.endpointUrl (items.drop 2)
  some ⟨region, strict, endpointUrl⟩

/-- Reads the value of a setting. Of a name that is none, any well-formed value does. -/
def readSetting (depth : Nat) (name : String) : Json.Reader Json :=
  if names.contains name then Json.readValue Json.strict 0 else Json.readValue Json.lenient depth

def parse? (text : List Char) : Option Settings :=
  match Json.skipBlank text with
  | '\x7b' :: rest => do
    let reader := Json.readMembers Json.strict (readSetting rest.length) true
    let members ← (Json.readAll reader rest).toOption
    ofMembers? members
  | '[' :: rest => do
    let items ← (Json.readAll (Json.readItems (Json.readValue Json.strict 0) true) rest).toOption
    ofItems? items
  | _ => none

inductive File where
  | missing
  | directory
  | content (bytes : List UInt8)

structure Loaded where
  settings : Settings
  ignored : Bool
  deriving DecidableEq, Repr

/-- Loads settings. Whatever cannot be read stands for the settings without a file. -/
def load : File → Loaded
  | .missing => ⟨standard, false⟩
  | .directory => ⟨standard, false⟩
  | .content bytes =>
    match Text.ofUtf8? bytes with
    | none => ⟨standard, false⟩
    | some text =>
      match parse? text with
      | some settings => ⟨settings, false⟩
      | none => ⟨standard, true⟩

/-- The region of a lookup: the one given, or else the one in the settings; none when it is
blank. -/
def effectiveRegion (s : Settings) (given : Option String) : Option String :=
  (given.orElse fun _ => s.region).filter fun r => !Text.allBlank r

end Settings

end CloudLookup
