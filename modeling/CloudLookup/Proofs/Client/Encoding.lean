import CloudLookup.Proofs.Client.Preparing
import CloudLookup.Proofs.Json.Printed
import CloudLookup.Proofs.Url.Form

/-! Calls are read back from their requests. A form has the action, the version and the parameters
of the call and nothing else, a body in JSON the one name that the call carries; so the headers and
the body of a request tell which call it makes. -/
namespace CloudLookup.Call

def ofForm? : List (String × String) → Option Call
  | ("Action", action) :: ("Version", version) :: parameters =>
    match action, version, parameters with
    | "DescribeCacheClusters", "2015-02-02",
        [("CacheClusterId", id), ("ShowCacheNodeInfo", "true")] => some (cacheClusters id)
    | "DescribeVpcs", "2016-11-15",
        [("Filter.1.Name", "tag-value"), ("Filter.1.Value.1", value)] => some (vpcs value)
    | "DescribeSubnets", "2016-11-15",
        [("Filter.1.Name", "tag-value"), ("Filter.1.Value.1", value)] => some (subnets value)
    | "DescribeSecurityGroups", "2016-11-15",
        [("Filter.1.Name", "group-name"), ("Filter.1.Value.1", group),
         ("Filter.2.Name", "vpc-id"), ("Filter.2.Value.1", network)] =>
      some (securityGroups group network)
    | "DescribeDBInstances", "2014-10-31", [("DBInstanceIdentifier", identifier)] =>
      some (dbInstances identifier)
    | _, _, _ => none
  | _ => none

def ofJson? : String → Json → Option Call
  | "Kinesis_20131202.DescribeStream", .object [("StreamName", .string name)] => some (stream name)
  | "DynamoDB_20120810.DescribeTable", .object [("TableName", .string name)] => some (table name)
  | _, _ => none

def ofRequest? (headers : List (String × String)) (body : List UInt8) : Option Call := do
  let text ← Text.ofUtf8? body
  match headers.lookup "x-amz-target" with
  | some target => (Json.parse text).toOption.bind (ofJson? target)
  | none => ofForm? (Url.Form.decode text)

theorem ofForm?_form {c : Call} (h : c.api.protocol = .query) : ofForm? c.form = some c := by
  cases c with
  | elasticsearchDomain name => contradiction
  | stream name => contradiction
  | table name => contradiction
  | _ => rfl

theorem ofJson?_json {c : Call} {version target : String}
    (h : c.api.protocol = .json version target) :
    ofJson? (target ++ "." ++ c.action) c.json = some c := by
  cases c with
  | stream name =>
    cases h
    rfl
  | table name =>
    cases h
    rfl
  | _ => contradiction

theorem parse_print_json {c : Call} {version target : String}
    (h : c.api.protocol = .json version target) : Json.parse (Json.print c.json) = .ok c.json := by
  cases c with
  | stream name => exact Json.parse_print_texts ("StreamName", name) []
  | table name => exact Json.parse_print_texts ("TableName", name) []
  | _ => contradiction

/-- Headers and a body state a call, part for part, and can be read as that call. -/
structure IsStated (c : Call) (headers : List (String × String)) (body : List UInt8) : Prop where
  form : c.api.protocol = .query → ∃ text, Text.ofUtf8? body = some text ∧
    Url.Form.decode text = ("Action", c.action) :: ("Version", c.api.version) :: c.parameters
  json : ∀ version target, c.api.protocol = .json version target →
    headers.lookup "x-amz-target" = some (target ++ "." ++ c.action) ∧
      ∃ text, Text.ofUtf8? body = some text ∧ Json.parse text = .ok c.json
  read : ofRequest? headers body = some c

theorem isStated_form {c : Call} (h : c.api.protocol = .query) :
    c.IsStated Client.formHeaders (Text.utf8 (Url.Form.encode c.form)) := by
  have text := Text.ofUtf8?_utf8 (Url.Form.encode c.form)
  have noTarget : Client.formHeaders.lookup "x-amz-target" = none := by rfl
  constructor
  case form => exact fun _ => ⟨_, text, Url.Form.decode_encode c.form⟩
  case json =>
    intro version target other
    rw [h] at other
    contradiction
  case read =>
    rw [ofRequest?, text, Option.bind_eq_bind, Option.bind_some, noTarget]
    dsimp only
    rw [Url.Form.decode_encode, ofForm?_form h]

theorem isStated_json {c : Call} {version target : String}
    (h : c.api.protocol = .json version target) :
    c.IsStated (Client.jsonHeaders version target c.action) (Text.utf8 (Json.print c.json)) := by
  have text := Text.ofUtf8?_utf8 (Json.print c.json)
  have named : (Client.jsonHeaders version target c.action).lookup "x-amz-target" =
      some (target ++ "." ++ c.action) := by rfl
  constructor
  case form =>
    intro other
    rw [h] at other
    contradiction
  case json =>
    intro version' target' same
    obtain ⟨rfl, rfl⟩ := Protocol.json.inj (h.symm.trans same)
    exact ⟨named, _, text, parse_print_json h⟩
  case read =>
    rw [ofRequest?, text, Option.bind_eq_bind, Option.bind_some, named]
    dsimp only
    rw [parse_print_json h]
    exact ofJson?_json h

theorem request_isStated {c : Call} (h : c.api ≠ .elasticsearch) (endpoint : Url) :
    ∃ request, c.request endpoint = .ok request ∧ c.IsStated request.headers request.body := by
  cases hp : c.api.protocol with
  | query => exact ⟨_, Client.request_of_query hp endpoint, isStated_form hp⟩
  | json version target => exact ⟨_, Client.request_of_json hp endpoint, isStated_json hp⟩
  | restJson =>
    refine absurd ?_ h
    cases hc : c.api <;> simp [hc, Api.protocol] at hp
    rfl

/-- The headers and the body of its request state a call, and they state no other one: requests of
two calls, to whatever addresses, have the same headers and body only if the calls are the same. -/
theorem request_tells_call {c : Call} (h : c.api ≠ .elasticsearch) (endpoint : Url) :
    ∃ request, c.request endpoint = .ok request ∧ c.IsStated request.headers request.body ∧
      ∀ (d : Call) (address : Url) (other : Http.Request), d.api ≠ .elasticsearch →
        d.request address = .ok other → other.headers = request.headers →
          other.body = request.body → d = c := by
  obtain ⟨request, made, stated⟩ := request_isStated h endpoint
  refine ⟨request, made, stated, ?_⟩
  intro d address other hd madeOther headers body
  obtain ⟨other', madeOther', statedOther⟩ := request_isStated hd address
  obtain rfl := Except.ok.inj (madeOther.symm.trans madeOther')
  have read := statedOther.read
  rw [headers, body, stated.read] at read
  exact (Option.some.inj read).symm

theorem request_tells_call_marks :
    ∃ request, (securityGroups "a&Filter.1.Value.1=b" "50%+ é").request
        ⟨"http".toList, some ⟨[], [], .ipv4 0x7F000001, some 4566⟩, .segments [[]], none, none⟩ =
          .ok request ∧
      ofRequest? request.headers request.body =
        some (securityGroups "a&Filter.1.Value.1=b" "50%+ é") := by
  obtain ⟨request, made, stated, -⟩ := request_tells_call
    (by decide : (securityGroups "a&Filter.1.Value.1=b" "50%+ é").api ≠ .elasticsearch) _
  exact ⟨request, made, stated.read⟩

end CloudLookup.Call
