import CloudLookup.Client.Encoding
import CloudLookup.Proofs.Reference.Form
import CloudLookup.Proofs.Resolution.Questions
import CloudLookup.Proofs.Url.Parser
import CloudLookup.Proofs.Url.Segments

/-! Requests for search domains. Each goes to the path of the endpoint, and then of the domain that
its key names. Only the keys of one dot and of two dots name no domain: their requests go to the path
above. -/
namespace CloudLookup

namespace Reference

open Text

theorem isOrdinary_of_key {key : List Char} (h : IsRun isKeyChar key) (dot : key ≠ ['.'])
    (dots : key ≠ ['.', '.']) : Url.IsOrdinary key := by
  refine ⟨fun c hc => ?_, dot, dots⟩
  have hk : isKeyChar c := h.2 c hc
  refine ⟨?_, ?_, ?_⟩ <;> rintro rfl <;> exact absurd hk (by decide)

end Reference

namespace Call

def IsDots (key : String) : Prop := key = "." ∨ key = ".."

instance (key : String) : Decidable (IsDots key) := inferInstanceAs (Decidable (_ ∨ _))

def domainParent : List (List Char) := ["2015-01-01".toList, "es".toList, "domain".toList]

def domainName (key : String) : List (List Char) :=
  if IsDots key then [] else [Url.percentEncode Url.inSpecialSegmentSet key.toList]

def domainRequest (endpoint : Url) (parts : List (List Char)) (key : String) : Http.Request :=
  { method := "GET"
    url := { endpoint with
      path := .segments (Url.dropEmptyEnd parts ++ domainParent ++ domainName key) }
    headers := []
    body := [] }

def queryPart (endpoint : Url) : List Char :=
  match endpoint.query with
  | some query => '?' :: query
  | none => []

section Request

variable {endpoint : Url} {parts : List (List Char)} {key other : String}

theorem foldl_domainParent (front : List (List Char)) :
    domainParent.foldl (Url.appendSegment .web) front = front ++ domainParent := by
  have ordinary : ∀ segment ∈ domainParent, Url.IsOrdinary segment := by
    intro segment hs
    simp only [domainParent, List.mem_cons, List.not_mem_nil, or_false] at hs
    obtain rfl | rfl | rfl := hs <;> exact ⟨by simp, by decide, by decide⟩
  rw [Url.foldl_appendSegment_web ordinary]
  rfl

theorem appendSegment_key (hk : Text.IsRun Reference.isKeyChar key.toList)
    (front : List (List Char)) :
    Url.appendSegment .web front key.toList = front ++ domainName key := by
  unfold domainName
  split
  · rename_i dots
    have dots : key.toList = ['.'] ∨ key.toList = ['.', '.'] := by
      obtain rfl | rfl := dots
      · exact .inl rfl
      · exact .inr rfl
    rw [Url.appendSegment_dots dots, List.append_nil]
  · rename_i named
    apply Url.appendSegment_web
    apply Reference.isOrdinary_of_key hk
    · intro dot
      exact named (.inl (String.toList_inj.mp dot))
    · intro dots
      exact named (.inr (String.toList_inj.mp dots))

theorem request_elasticsearchDomain (web : Url.kindOf endpoint.scheme = .web)
    (path : endpoint.path = .segments parts) (hk : Text.IsRun Reference.isKeyChar key.toList) :
    (elasticsearchDomain key).request endpoint = .ok (domainRequest endpoint parts key) := by
  have extended : endpoint.extend? (domainParent ++ [key.toList]) =
      some (domainRequest endpoint parts key).url := by
    unfold Url.extend?
    rw [path]
    dsimp only
    rw [web, List.foldl_append, foldl_domainParent, List.foldl_cons, List.foldl_nil,
      appendSegment_key hk]
    rfl
  have segments : [Api.elasticsearch.version, "es", "domain",
      (elasticsearchDomain key).pathName].map String.toList = domainParent ++ [key.toList] := rfl
  unfold request
  dsimp only [api, Api.protocol]
  rw [segments, extended]
  rfl

theorem target_domainRequest :
    (domainRequest endpoint parts key).url.target =
      (Url.dropEmptyEnd parts ++ domainParent).flatMap ('/' :: ·) ++
        ((domainName key).flatMap ('/' :: ·) ++ queryPart endpoint) := by
  have path : (domainRequest endpoint parts key).url.target =
      (Url.dropEmptyEnd parts ++ domainParent ++ domainName key).flatMap ('/' :: ·) ++
        queryPart endpoint := rfl
  rw [path, List.flatMap_append, List.append_assoc]

theorem domainName_eq_iff :
    (domainName key).flatMap ('/' :: ·) = (domainName other).flatMap ('/' :: ·) ↔
      key = other ∨ IsDots key ∧ IsDots other := by
  unfold domainName
  by_cases hk : IsDots key <;> by_cases ho : IsDots other
  · simp [hk, ho]
  · have : key ≠ other := fun h => ho (h ▸ hk)
    simp [hk, ho, this]
  · have : key ≠ other := fun h => hk (h ▸ ho)
    simp [hk, ho, this]
  · simp [hk, ho, Url.percentEncode_inj Url.percent_mem_inSpecialSegmentSet, String.toList_inj]

theorem target_domainRequest_eq_iff :
    (domainRequest endpoint parts key).url.target = (domainRequest endpoint parts other).url.target ↔
      key = other ∨ IsDots key ∧ IsDots other := by
  rw [target_domainRequest, target_domainRequest, List.append_cancel_left_eq,
    List.append_cancel_right_eq, domainName_eq_iff]

end Request

/-- A request that addresses a search domain: its path is that of the endpoint and then that of the
domain, whose last segment is read as the key. -/
structure AddressesDomain (endpoint : Url) (key : String) (request : Http.Request) : Prop where
  method : request.method = "GET"
  path : ∃ parts front, endpoint.path = .segments parts ∧ Url.Base parts front ∧
    request.url = { endpoint with
      path := .segments (front ++ ["2015-01-01".toList, "es".toList, "domain".toList,
        Url.percentEncode Url.inSpecialSegmentSet key.toList]) }
  name : ∀ parts name, request.url.path = .segments parts → parts.getLast? = some name →
    Url.percentDecode name = Text.utf8 key.toList

theorem addressesDomain_iff {endpoint : Url} {parts : List (List Char)} {key : String}
    (path : endpoint.path = .segments parts) :
    AddressesDomain endpoint key (domainRequest endpoint parts key) ↔ ¬ IsDots key := by
  constructor
  · intro addressed dots
    -- Without a name the path ends with the segment above, which is read as itself.
    have last : (Url.dropEmptyEnd parts ++ domainParent ++ domainName key).getLast? =
        some "domain".toList := by
      rw [domainName, if_pos dots, List.append_nil, List.getLast?_append]
      rfl
    have decoded := addressed.name _ _ rfl last
    obtain rfl | rfl := dots
    · exact absurd decoded (by decide)
    · exact absurd decoded (by decide)
  · intro named
    have name : domainName key = [Url.percentEncode Url.inSpecialSegmentSet key.toList] :=
      if_neg named
    refine ⟨rfl, ⟨parts, Url.dropEmptyEnd parts, path, Url.base_dropEmptyEnd parts, ?_⟩, ?_⟩
    · unfold domainRequest
      rw [name, List.append_assoc]
      rfl
    · intro shown last hs hl
      obtain rfl := Url.Path.segments.inj hs
      rw [name, List.getLast?_concat] at hl
      obtain rfl := Option.some.inj hl
      exact Url.percentDecode_percentEncode Url.percent_mem_inSpecialSegmentSet _

end Call

section Reference

theorem kindOf_of_web {scheme : List Char} (h : String.ofList scheme ∈ ["http", "https"]) :
    Url.kindOf scheme = .web := by
  have text : scheme = "http".toList ∨ scheme = "https".toList := by
    simpa [← String.toList_inj] using h
  obtain rfl | rfl := text
  · rfl
  · rfl

theorem keyRun_of_standard {s : String} {r : Reference} (h : Reference.parse s = .ok r)
    (standard : Reference.shape? s.toList = some .standard) :
    Text.IsRun Reference.isKeyChar r.key.toList := by
  cases Reference.parse_eq_ok_iff.mp h with
  | standard h => exact h.key
  | subService h _ =>
    rw [Reference.shape?_of_subService h] at standard
    contradiction

end Reference

/-- The resolution of a reference to a search domain asks for the domain of its key. On the web the
request for it addresses that domain unless the key is made of one or two dots, and other keys have
other targets. -/
theorem searchDomain_addressed {s key property : String}
    (h : Reference.parse s = .ok ⟨.searchDomain, key, property⟩)
    (standard : Reference.shape? s.toList = some .standard)
    {text : List Char} {endpoint : Url} (read : Url.parse text = .ok endpoint)
    (web : String.ofList endpoint.scheme ∈ ["http", "https"]) :
    (∀ (σ : Type) (provider : Provider σ) (region : Option String) (strict : Bool) (state : σ),
      ((resolve s region strict).run provider state).asked =
        [⟨.elasticsearchDomain key, Region.given? region⟩]) ∧
    ∃ request, (Call.elasticsearchDomain key).request endpoint = .ok request ∧
      (Call.AddressesDomain endpoint key request ↔ ¬ Call.IsDots key) ∧
      ∀ other, Text.IsRun Reference.isKeyChar other.toList →
        ∃ request', (Call.elasticsearchDomain other).request endpoint = .ok request' ∧
          (request.url.target = request'.url.target ↔
            key = other ∨ Call.IsDots key ∧ Call.IsDots other) := by
  have kind := kindOf_of_web web
  obtain ⟨parts, path⟩ := Url.segments_of_parse read kind
  have hk : Text.IsRun Reference.isKeyChar key.toList := keyRun_of_standard h standard
  refine ⟨fun σ provider region strict state => ?_, Call.domainRequest endpoint parts key,
    Call.request_elasticsearchDomain kind path hk, Call.addressesDomain_iff path,
    fun other ho => ⟨Call.domainRequest endpoint parts other,
      Call.request_elasticsearchDomain kind path ho, Call.target_domainRequest_eq_iff⟩⟩
  rw [run_resolve_of_ok h]
  exact Lookup.asked_find_single (r := ⟨.searchDomain, key, property⟩) provider _ state rfl

theorem searchDomain_addressed_in_base :
    ∃ endpoint request, Url.parse "http://[::1]:4566/base/?x".toList = .ok endpoint ∧
      (Call.elasticsearchDomain "größe.1").request endpoint = .ok request ∧
      Call.AddressesDomain endpoint "größe.1" request := by
  have read : Url.parse "http://[::1]:4566/base/?x".toList = .ok
      ⟨"http".toList, some ⟨[], [], .ipv6 [0, 0, 0, 0, 0, 0, 0, 1], some 4566⟩,
        .segments ["base".toList, []], some ['x'], none⟩ := by rfl
  have h : Reference.parse "aws:ess:größe.1:ARN" = .ok ⟨.searchDomain, "größe.1", "ARN"⟩ := by rfl
  obtain ⟨-, request, built, addressed, -⟩ :=
    searchDomain_addressed h (by rfl) read (by decide)
  exact ⟨_, request, read, built, addressed.mpr (by decide)⟩

theorem dots_share_target :
    let endpoint : Url := ⟨"http".toList, some ⟨[], [], .ipv6 [0, 0, 0, 0, 0, 0, 0, 1], some 4566⟩,
      .segments [[]], none, none⟩
    Url.parse "http://[::1]:4566".toList = .ok endpoint ∧
      Reference.parse "aws:ess:.:ARN" = .ok ⟨.searchDomain, ".", "ARN"⟩ ∧
      Reference.parse "aws:ess:..:ARN" = .ok ⟨.searchDomain, "..", "ARN"⟩ ∧
      ∃ one two, (Call.elasticsearchDomain ".").request endpoint = .ok one ∧
        (Call.elasticsearchDomain "..").request endpoint = .ok two ∧
        one.url.target = "/2015-01-01/es/domain".toList ∧ two.url.target = one.url.target ∧
        ¬ Call.AddressesDomain endpoint "." one ∧ ¬ Call.AddressesDomain endpoint ".." two := by
  intro endpoint
  have built {key : String} (hk : Text.IsRun Reference.isKeyChar key.toList) :
      (Call.elasticsearchDomain key).request endpoint =
        .ok (Call.domainRequest endpoint [[]] key) :=
    Call.request_elasticsearchDomain rfl rfl hk
  refine ⟨by rfl, by rfl, by rfl, Call.domainRequest endpoint [[]] ".",
    Call.domainRequest endpoint [[]] "..", built (by decide), built (by decide), by rfl, by rfl,
    ?_, ?_⟩
  · rw [Call.addressesDomain_iff rfl]
    decide
  · rw [Call.addressesDomain_iff rfl]
    decide

end CloudLookup
