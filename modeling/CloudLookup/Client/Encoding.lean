import CloudLookup.Client.Problem
import CloudLookup.Describe.XmlAnswer
import CloudLookup.Describe.Call
import CloudLookup.Http.ErrorBody
import CloudLookup.Http.Message
import CloudLookup.Json.Printer
import CloudLookup.Lookup.Basic
import CloudLookup.Url.Form
import CloudLookup.Url.Segments

/-! Calls written as requests, and answers read from responses. -/
namespace CloudLookup

namespace Call

def filter (index : Nat) (name value : String) : List (String × String) :=
  [(s!"Filter.{index}.Name", name), (s!"Filter.{index}.Value.1", value)]

def parameters : Call → List (String × String)
  | cacheClusters clusterId => [("CacheClusterId", clusterId), ("ShowCacheNodeInfo", "true")]
  | vpcs tagValue => filter 1 "tag-value" tagValue
  | subnets tagValue => filter 1 "tag-value" tagValue
  | securityGroups groupName vpcId =>
    filter 1 "group-name" groupName ++ filter 2 "vpc-id" vpcId
  | dbInstances identifier => [("DBInstanceIdentifier", identifier)]
  | elasticsearchDomain _ | stream _ | table _ => []

def form (c : Call) : List (String × String) :=
  ("Action", c.action) :: ("Version", c.api.version) :: c.parameters

def json : Call → Json
  | stream streamName => Json.single "StreamName" (.string streamName)
  | table tableName => Json.single "TableName" (.string tableName)
  | _ => .object []

def pathName : Call → String
  | elasticsearchDomain domainName => domainName
  | _ => ""

def request (c : Call) (endpoint : Url) : Except Client.Problem Http.Request :=
  match c.api.protocol with
  | .query =>
    .ok { method := "POST", url := endpoint,
          headers := [("content-type", "application/x-www-form-urlencoded; charset=utf-8")],
          body := Text.utf8 (Url.Form.encode c.form) }
  | .json version target =>
    .ok { method := "POST", url := endpoint,
          headers := [("content-type", s!"application/x-amz-json-{version}"),
                      ("x-amz-target", s!"{target}.{c.action}")],
          body := Text.utf8 (Json.print c.json) }
  | .restJson =>
    let segments := [c.api.version, "es", "domain", c.pathName].map String.toList
    match endpoint.extend? segments with
    | some url => .ok { method := "GET", url := url, headers := [], body := [] }
    | none => .error .noBase

def answer (c : Call) (body : List Char) : Except Client.Problem Json :=
  match c.api.protocol, c.api with
  | .query, .ec2 => (XmlAnswer.normalizedRoot body).mapError .markup
  | .query, api => (XmlAnswer.actionResult api.shapes c.action body).mapError .markup
  | _, _ =>
    if body.all Text.isBlank then .ok .null
    else (Json.parse body).mapError (.json body)

def interpret (c : Call) (response : Http.Response) : List LogLine × Except Client.Problem Json :=
  let body := response.text
  if response.isSuccess then ([], c.answer body)
  else
    let status := Http.statusText response.status
    let shown := String.ofList (loggedBody body)
    ([⟨.error, s!"API error: {status} - {shown}"⟩],
      .error (.api (ApiError.ofBody response.status body)))

end Call

end CloudLookup
