import CloudLookup.Lookup.Basic
import CloudLookup.Text.Fields

/-! Looking up the record of one resource by its key. -/
namespace CloudLookup.Lookup

abbrev RecordLookup := Lookup ResolveError Json

def describe (region : Option String) (call : Call) : RecordLookup :=
  ask ⟨call, region⟩ fun
    | .ok answer => done (.ok answer)
    | .error failure => done (.error (.transport failure))

def first? (name : String) (answer : Json) : Option Json :=
  match answer.member? name with
  | some (.array (item :: _)) => some item
  | _ => none

def present? (name : String) (answer : Json) : Option Json :=
  (answer.member? name).filter fun value => !value.isNull

def items (name : String) (answer : Json) : List Json :=
  match answer.member? name with
  | some (.array items) => items
  | _ => []

def orNotFound (what key : String) : Option Json → RecordLookup
  | some record => done (.ok record)
  | none => fail (.notFound what key)

def cacheCluster (region : Option String) (key : String) : RecordLookup := do
  debug s!"Resolving ElastiCache cluster with name {key}"
  let answer ← describe region (.cacheClusters key)
  orNotFound "ElastiCache cluster" key (first? "CacheClusters" answer)

def searchDomain (region : Option String) (key : String) : RecordLookup := do
  debug s!"Resolving ElasticSearch cluster with name {key}"
  let answer ← describe region (.elasticsearchDomain key)
  orNotFound "ElasticSearch cluster" key (present? "DomainStatus" answer)

def stream (region : Option String) (key : String) : RecordLookup := do
  debug s!"Resolving Kinesis stream with name {key}"
  let answer ← describe region (.stream key)
  orNotFound "Kinesis stream" key (present? "StreamDescription" answer)

def table (region : Option String) (key : String) : RecordLookup := do
  debug s!"Resolving DynamoDB table with name {key}"
  let answer ← describe region (.table key)
  orNotFound "DynamoDB table" key (present? "Table" answer)

def onlyInstance (key : String) : List Json → RecordLookup
  | [] => fail (.notFound "RDS database" key)
  | [record] => done (.ok record)
  | records => fail (.ambiguous key records.length)

def dbInstance (region : Option String) (key : String) : RecordLookup := do
  debug s!"Resolving RDS database with name {key}"
  let answer ← describe region (.dbInstances key)
  onlyInstance key (items "DBInstances" answer)

def vpc (region : Option String) (name : String) : RecordLookup := do
  debug s!"Resolving vpc with name {name}"
  let answer ← describe region (.vpcs name)
  orNotFound "vpc" name (first? "Vpcs" answer)

def subnet (region : Option String) (name : String) : RecordLookup := do
  debug s!"Resolving subnet with name {name}"
  let answer ← describe region (.subnets name)
  orNotFound "subnet" name (first? "Subnets" answer)

def splitGroupKey (key : String) : Except ResolveError (String × String) :=
  let problem := ResolveError.invalidKey "ec2" key "expected <vpcName>-<groupName>"
  match Text.splitFirst '-' key.toList with
  | none => .error problem
  | some (vpc, group) =>
    if vpc.isEmpty || group.isEmpty then .error problem
    else .ok (String.ofList vpc, String.ofList group)

def vpcId (name : String) (record : Json) : Lookup ResolveError String :=
  match (record.member? "VpcId").bind Json.text? with
  | some id => done (.ok id)
  | none => fail (.notFound "VpcId for vpc" name)

/-- A security group by its name, in the network found by its name. -/
def securityGroup (region : Option String) (key : String) : RecordLookup := do
  let (network, group) ← done (splitGroupKey key)
  debug s!"Resolving security group {group} in vpc {network}"
  let record ← vpc region network
  let id ← vpcId network record
  let answer ← describe region (.securityGroups group id)
  orNotFound "security group" s!"{group} in {id}" (first? "SecurityGroups" answer)

def networkKind? : String → Option (Option String → String → RecordLookup)
  | "vpc" => some vpc
  | "subnet" => some subnet
  | "securityGroup" => some securityGroup
  | _ => none

def network (region : Option String) (key : String) : RecordLookup :=
  let (kind, name) := (Text.splitFirst ':' key.toList).getD (key.toList, [])
  match networkKind? (String.ofList kind) with
  | some find =>
    if name.isEmpty then fail (.invalidKey "ec2" key "expected <kind>:<name>")
    else find region (String.ofList name)
  | none => fail (.unsupportedSubKind (String.ofList kind))

end CloudLookup.Lookup
