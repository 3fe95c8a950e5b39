import CloudLookup.Proofs.Signature.Sendable

/-! Requests that can be sent. A client with a region, with keys and with an address of its own
sends every call that is written as a form, when the region and the keys fit into headers. -/
namespace CloudLookup

open Signature (Fits Sendable)

structure Url.Usable (url : Url) : Prop where
  web : String.ofList url.scheme ∈ ["http", "https"]
  host : url.authority.any (fun a => a.host.isPresent) = true
  signable : ∃ location, Signature.Location.parse url.render = .ok location

structure Url.IsWeb (url : Url) : Prop where
  scheme : String.ofList url.scheme ∈ ["http", "https"]
  host : url.authority.any (fun a => a.host.isPresent) = true

theorem Url.Usable.isWeb {url : Url} (h : url.Usable) : url.IsWeb := ⟨h.web, h.host⟩

namespace Client

/-- For calls that name a region, or none, the client has a region, keys and a usable address. -/
structure Equipped (client : Client) (named : Option String) (region : String)
    (credentials : Signature.Credentials) (url : Url) : Prop where
  region : client.regionFor named = .ok region
  keys : ∀ sent, client.keys sent = .fixed credentials
  endpoint : client.endpointUrl = some url
  usable : url.Usable

theorem basicAccess?_eq_some {authority : Url.Authority} {header : String × String}
    (h : basicAccess? authority = some header) :
    ∃ bytes, header = ("authorization", "Basic " ++ String.ofList (Text.base64 bytes)) := by
  unfold basicAccess? at h
  obtain ⟨username, -, h⟩ := Option.bind_eq_some_iff.mp h
  dsimp only at h
  split at h
  · contradiction
  · exact ⟨_, (Option.some.inj h).symm⟩

theorem sendable_basicAccess? {authority : Url.Authority} {header : String × String}
    (h : basicAccess? authority = some header) : Sendable header.2 := by
  obtain ⟨bytes, rfl⟩ := basicAccess?_eq_some h
  rw [← Signature.all_isValueChar_iff]
  simp only [String.toList_append, List.all_append, String.toList_ofList, Signature.all_base64]
  decide

theorem mem_headers_moveAccess {request : Http.Request} {h : String × String}
    (hm : h ∈ (moveAccess request).headers) : h ∈ request.headers ∨ Sendable h.2 := by
  unfold moveAccess at hm
  split at hm
  · exact .inl hm
  · split at hm
    · exact .inl hm
    · rename_i hb
      obtain rfl | hm := List.mem_cons.mp hm
      · exact .inr (sendable_basicAccess? hb)
      · exact .inl hm

theorem mem_headers_of_mem (request : Http.Request) {h : String × String}
    (hm : h ∈ request.headers) : h ∈ (moveAccess request).headers := by
  unfold moveAccess
  split
  · exact hm
  · split
    · exact hm
    · exact List.mem_cons_of_mem _ hm

theorem scheme_moveAccess (request : Http.Request) :
    (moveAccess request).url.scheme = request.url.scheme := by
  unfold moveAccess
  split
  · rfl
  · split <;> rfl

theorem host_moveAccess (request : Http.Request) :
    (moveAccess request).url.authority.any (fun a => a.host.isPresent) =
      request.url.authority.any (fun a => a.host.isPresent) := by
  unfold moveAccess
  split
  · rfl
  · rename_i h
    split
    · rfl
    · rw [h]
      rfl

theorem isWeb_moveAccess {request : Http.Request} :
    (moveAccess request).url.IsWeb ↔ request.url.IsWeb := by
  constructor
  · rintro ⟨scheme, host⟩
    rw [scheme_moveAccess] at scheme
    rw [host_moveAccess] at host
    exact ⟨scheme, host⟩
  · rintro ⟨scheme, host⟩
    exact ⟨by rwa [scheme_moveAccess], by rwa [host_moveAccess]⟩

theorem sendProblem?_eq_none_iff {request : Http.Request} :
    sendProblem? request = none ↔
      request.url.IsWeb ∧ ∀ h ∈ request.headers, Sendable h.2 := by
  have web : request.url.IsWeb ↔
      request.url.authority.any (fun a => a.host.isPresent) = true ∧
        ["http", "https"].contains (String.ofList request.url.scheme) = true :=
    ⟨fun h => ⟨h.host, List.contains_iff_mem.mpr h.scheme⟩,
      fun h => ⟨List.contains_iff_mem.mp h.2, h.1⟩⟩
  have values : (∀ h ∈ request.headers, Sendable h.2) ↔
      (request.headers.all fun h => h.2.toList.all Signature.isValueChar) = true := by
    simp only [List.all_eq_true, Sendable]
  unfold sendProblem?
  rw [web, values]
  generalize request.url.authority.any _ = host, ["http", "https"].contains _ = scheme,
    request.headers.all _ = sendable
  cases host <;> cases scheme <;> cases sendable <;> simp

def formHeaders : List (String × String) :=
  [("content-type", "application/x-www-form-urlencoded; charset=utf-8")]

def formRequest (c : Call) (endpoint : Url) : Http.Request :=
  ⟨"POST", endpoint, formHeaders, Text.utf8 (Url.Form.encode c.form)⟩

theorem request_of_query {c : Call} (h : c.api.protocol = .query) (endpoint : Url) :
    c.request endpoint = .ok (formRequest c endpoint) := by
  unfold Call.request
  rw [h]
  rfl

def jsonHeaders (version target action : String) : List (String × String) :=
  [("content-type", "application/x-amz-json-" ++ version), ("x-amz-target", target ++ "." ++ action)]

theorem request_of_json {c : Call} {version target : String}
    (h : c.api.protocol = .json version target) (endpoint : Url) :
    c.request endpoint = .ok ⟨"POST", endpoint, jsonHeaders version target c.action,
      Text.utf8 (Json.print c.json)⟩ := by
  unfold Call.request
  rw [h]
  rfl

theorem coveredHeaders?_form {credentials : Signature.Credentials}
    (ht : ∀ token ∈ credentials.sessionToken, Sendable token) (location : Signature.Location)
    (time : Nat) :
    ∃ covered, Signature.coveredHeaders? credentials location time formHeaders = some covered := by
  have hg : Signature.normalizeHeaders? formHeaders =
      some [("content-type".toList, "application/x-www-form-urlencoded; charset=utf-8".toList)] :=
    rfl
  unfold Signature.coveredHeaders?
  rw [hg, Option.bind_eq_bind, Option.bind_some]
  dsimp only
  split
  · exact ⟨_, rfl⟩
  · rename_i token h
    rw [if_pos (Signature.all_isValueChar_iff.mpr (ht token h))]
    exact ⟨_, rfl⟩

theorem sendable_endpointName (api : Api) : Sendable api.endpointName := by
  cases api <;> decide

section Seal

variable {credentials : Signature.Credentials} {api : Api} {region : String} {time : Nat}
  {request : Http.Request}

def signable (request : Http.Request) : Signature.Signable :=
  ⟨request.method, String.ofList request.url.render, request.headers, request.body⟩

def withHeaders (request : Http.Request) (added : List (String × String)) : Http.Request :=
  { request with headers := request.headers ++ added ++ [("user-agent", userAgent)] }

theorem sealRequest_of_signed {added : List (String × String)}
    (h : Signature.sign credentials api.endpointName region time (signable request) = .ok added) :
    sealRequest credentials api region time request =
      match sendProblem? (moveAccess (withHeaders request added)) with
      | some problem => .error (.unsent
          (String.ofList (moveAccess (withHeaders request added)).url.render) problem)
      | none => .ok (moveAccess (withHeaders request added)) := by
  unfold sealRequest
  unfold signable at h
  dsimp only
  rw [h]
  rfl

theorem sealRequest_eq_ok_iff {signed : Http.Request} :
    sealRequest credentials api region time request = .ok signed ↔
      ∃ added, Signature.sign credentials api.endpointName region time (signable request) =
          .ok added ∧ sendProblem? (moveAccess (withHeaders request added)) = none ∧
        signed = moveAccess (withHeaders request added) := by
  cases hs : Signature.sign credentials api.endpointName region time (signable request) with
  | error problem =>
    have failed : sealRequest credentials api region time request = .error (.unsigned problem) := by
      unfold sealRequest
      unfold signable at hs
      dsimp only
      rw [hs]
      rfl
    simp [failed]
  | ok added =>
    rw [sealRequest_of_signed hs]
    simp only [Except.ok.injEq, exists_eq_left']
    split
    · rename_i h
      simp [h]
    · rename_i h
      simp [h, eq_comm]

/-- With headers that can be sent, a signed request can be sent to an address of the web exactly
when the region and the keys can be written in headers. -/
theorem sendProblem?_signed_iff {added : List (String × String)}
    (hh : ∀ h ∈ request.headers, Sendable h.2)
    (hs : Signature.sign credentials api.endpointName region time (signable request) = .ok added) :
    sendProblem? (moveAccess (withHeaders request added)) = none ↔
      Fits region credentials ∧ request.url.IsWeb := by
  obtain ⟨location, covered, signature, hc, rfl⟩ := Signature.covered_of_sign hs
  have hn := Signature.namesSendable_coveredHeaders? hc
  have fits : (∀ h ∈ Signature.added credentials api.endpointName region time covered signature,
      Sendable h.2) ↔ Fits region credentials :=
    Signature.sendable_added_iff (sendable_endpointName api) hn
  rw [sendProblem?_eq_none_iff, isWeb_moveAccess, and_comm, ← fits]
  apply and_congr_left'
  constructor
  · intro h header hm
    exact h header (mem_headers_of_mem _
      (List.mem_append_left _ (List.mem_append_right _ hm)))
  · intro h header hm
    obtain hm | hm := mem_headers_moveAccess hm
    · unfold withHeaders at hm
      rw [List.mem_append, List.mem_append] at hm
      obtain (hm | hm) | hm := hm
      · exact hh header hm
      · exact h header hm
      · obtain rfl := List.mem_singleton.mp hm
        decide
    · exact hm

theorem sendable_formHeaders : ∀ h ∈ formHeaders, Sendable h.2 := by decide

theorem sign_form (hu : request.url.Usable) (hh : request.headers = formHeaders)
    (ht : ∀ token ∈ credentials.sessionToken, Sendable token) :
    ∃ added, Signature.sign credentials api.endpointName region time (signable request) =
      .ok added := by
  obtain ⟨location, hl⟩ := hu.signable
  obtain ⟨covered, hc⟩ := coveredHeaders?_form ht location time
  have hl' : Signature.Location.parse (signable request).url.toList = .ok location := by
    rw [signable, String.toList_ofList, hl]
  have hc' : Signature.coveredHeaders? credentials location time (signable request).headers =
      some covered := by
    rw [signable, hh, hc]
  obtain ⟨signature, hs⟩ := Signature.sign_of_covered hl' hc'
  exact ⟨_, hs⟩

theorem sealRequest_ok (hu : request.url.Usable) (hh : request.headers = formHeaders)
    (fits : Fits region credentials) :
    ∃ signed, sealRequest credentials api region time request = .ok signed := by
  obtain ⟨added, hs⟩ : ∃ added, Signature.sign credentials api.endpointName region time
      (signable request) = .ok added := sign_form hu hh fits.token
  have sends := (sendProblem?_signed_iff (hh ▸ sendable_formHeaders) hs).mpr ⟨fits, hu.isWeb⟩
  exact ⟨_, sealRequest_eq_ok_iff.mpr ⟨_, hs, sends, rfl⟩⟩

theorem sealRequest_error (hh : request.headers = formHeaders)
    (unfit : ¬ Fits region credentials) :
    ∃ problem, sealRequest credentials api region time request = .error problem := by
  cases sealed : sealRequest credentials api region time request with
  | error problem => exact ⟨problem, rfl⟩
  | ok signed =>
    obtain ⟨added, hs, sends, -⟩ := sealRequest_eq_ok_iff.mp sealed
    exact absurd ((sendProblem?_signed_iff (hh ▸ sendable_formHeaders) hs).mp sends).1 unfit

end Seal

section Prepare

variable {client : Client} {q : Question} {region : String} {credentials : Signature.Credentials}
  {url : Url}

theorem prepare_of_equipped (h : client.Equipped q.region region credentials url)
    (hq : q.call.api.protocol = .query) (sent : List Http.Request) (time : Nat) :
    ∃ log, client.prepare sent time q =
      (log, sealRequest credentials q.call.api region time (formRequest q.call url)) := by
  have hc : client.credentials sent = .ok credentials := by rw [Client.credentials, h.keys]
  have he : client.endpoint q.call.api region = .ok url := by rw [endpoint, h.endpoint]
  unfold prepare
  rw [h.region]
  dsimp only
  rw [hc]
  dsimp only
  rw [he]
  dsimp only
  rw [request_of_query hq]
  exact ⟨_, rfl⟩

theorem prepare_ok (h : client.Equipped q.region region credentials url)
    (fits : Fits region credentials) (hq : q.call.api.protocol = .query)
    (sent : List Http.Request) (time : Nat) :
    ∃ log request, client.prepare sent time q = (log, .ok request) := by
  obtain ⟨log, hp⟩ := prepare_of_equipped h hq sent time
  have usable : (formRequest q.call url).url.Usable := h.usable
  obtain ⟨signed, hs⟩ := sealRequest_ok usable rfl fits
  exact ⟨log, signed, by rw [hp, hs]⟩

theorem prepare_error (h : client.Equipped q.region region credentials url)
    (unfit : ¬ Fits region credentials) (hq : q.call.api.protocol = .query)
    (sent : List Http.Request) (time : Nat) :
    ∃ log problem, client.prepare sent time q = (log, .error problem) := by
  obtain ⟨log, hp⟩ := prepare_of_equipped h hq sent time
  have plain : (formRequest q.call url).headers = formHeaders := rfl
  obtain ⟨problem, he⟩ := sealRequest_error plain unfit
  exact ⟨log, problem, by rw [hp, he]⟩

end Prepare

end Client

end CloudLookup
