import CloudLookup.Client.Basic
import CloudLookup.Proofs.Text.Trim
import CloudLookup.Proofs.Url.Authority
import CloudLookup.Proofs.Url.Host
import CloudLookup.Proofs.Url.Path

/-! Where requests go when no endpoint is set: to a host of the provider, unless the region has a
character that has a meaning in addresses. -/
namespace CloudLookup

/-- An address of a host of the provider, with nothing besides the host. -/
structure AtProvider (api : Api) (url : Url) : Prop extends Url.AtRoot url where
  scheme : url.scheme = "https".toList
  authority : ∃ host, url.authority = some ⟨[], [], .domain host, none⟩ ∧
    api.endpointName.toList ++ ['.'] <+: host ∧ ".amazonaws.com".toList <:+ host

namespace Client

def domain : List Char := "amazonaws.com".toList

theorem isPlainName_domain : Url.Domain.IsPlainName domain :=
  ⟨List.all_eq_true.mp (by decide), by decide⟩

theorem isPlainName_endpointName (api : Api) :
    Url.Domain.IsPlainName api.endpointName.toList := by
  cases api
  all_goals exact ⟨List.all_eq_true.mp (by decide), by decide⟩

theorem endpointName_eq_cons (api : Api) : ∃ first rest, api.endpointName.toList = first :: rest ∧
    Url.inUserinfoSet first = false := by
  cases api
  all_goals exact ⟨_, _, rfl, by decide⟩

def shownRegion (region : String) : List Char :=
  region.toList.filter fun c => !(c = '\t' || c = '\n' || c = '\r')

def afterSlashes (api : Api) (region : String) : List Char :=
  api.endpointName.toList ++ '.' :: (shownRegion region ++ '.' :: (domain ++ ['/']))

theorem endpointText_toList (api : Api) (region : String) : (endpointText api region).toList =
    "https://".toList ++ (api.endpointName.toList ++ '.' :: (region.toList ++ '.' ::
      (domain ++ ['/']))) := by
  have parts : endpointText api region =
      "https://" ++ api.endpointName ++ "." ++ region ++ ".amazonaws.com/" := rfl
  have point : ".".toList = ['.'] := rfl
  have ending : ".amazonaws.com/".toList = '.' :: (domain ++ ['/']) := rfl
  rw [parts, String.toList_append, String.toList_append, String.toList_append,
    String.toList_append, point, ending]
  simp only [List.append_assoc, List.cons_append, List.nil_append]

theorem clean_endpointText (api : Api) (region : String) :
    Url.clean (endpointText api region).toList = "https://".toList ++ afterSlashes api region := by
  have ends : (endpointText api region).toList = 'h' :: ("ttps://".toList ++
      (api.endpointName.toList ++ '.' :: (region.toList ++ '.' :: domain))) ++ ['/'] := by
    have start : "https://".toList = 'h' :: "ttps://".toList := rfl
    rw [endpointText_toList, start]
    simp only [List.append_assoc, List.cons_append]
  have solid : Text.Solid Url.isOuter (endpointText api region).toList := by
    rw [ends]
    exact Text.Solid.of_cons_append (by decide) (by decide)
  have name : api.endpointName.toList.filter (fun c => !(c = '\t' || c = '\n' || c = '\r')) =
      api.endpointName.toList := by
    cases api <;> decide
  rw [Url.clean_of_solid solid, endpointText_toList, List.filter_append, List.filter_append, name,
    List.filter_cons_of_pos (by decide), List.filter_append]
  rfl

theorem parse_endpointText (api : Api) (region : String) :
    Url.parse (endpointText api region).toList =
      (Url.readAuthority "https".toList (afterSlashes api region)).map fun p =>
        Url.withAuthority "https".toList p.1 p.2 := by
  have scheme : Url.readScheme? ("https://".toList ++ afterSlashes api region) =
      some ("https".toList, "//".toList ++ afterSlashes api region) := rfl
  have slashes : ("//".toList ++ afterSlashes api region).dropWhile
      (fun c => decide (c = '/') || decide (c = '\\')) = afterSlashes api region := by
    unfold afterSlashes
    cases api <;> rfl
  unfold Url.parse
  rw [clean_endpointText, scheme]
  dsimp only
  rw [slashes]
  rfl

def isDelimiter (c : Char) : Bool := Url.endsAuthority .web c || c = '@'

theorem isDelimiter_iff (c : Char) : isDelimiter c = false ↔ c ∉ ['/', '\\', '?', '#', '@'] := by
  simp only [isDelimiter, Url.endsAuthority, Url.Kind.isSpecial, Bool.true_and,
    Bool.or_eq_false_iff, decide_eq_false_iff_not, List.mem_cons, List.not_mem_nil, or_false,
    not_or]
  grind

theorem isDelimiter_shown (region : String) : (∀ c ∈ shownRegion region, isDelimiter c = false) ↔
    ∀ c ∈ region.toList, isDelimiter c = false := by
  unfold shownRegion
  constructor
  · intro h c hc
    by_cases hs : c = '\t' ∨ c = '\n' ∨ c = '\r'
    · obtain rfl | rfl | rfl := hs <;> rfl
    · apply h
      rw [List.mem_filter]
      exact ⟨hc, by simpa [not_or, and_assoc] using hs⟩
  · exact fun h c hc => h c (List.mem_filter.mp hc).1

section Endpoint

variable {x : List Char}

theorem inside_front (api : Api) (hx : Url.IsInside x) :
    Url.IsInside (api.endpointName.toList ++ '.' :: x) :=
  List.forall_mem_append.mpr ⟨Url.IsInside.of_plain (isPlainName_endpointName api).plain,
    List.forall_mem_cons.mpr ⟨rfl, hx⟩⟩

theorem inside_back (hx : Url.IsInside x) : Url.IsInside (x ++ '.' :: domain) :=
  List.forall_mem_append.mpr ⟨hx, List.forall_mem_cons.mpr
    ⟨rfl, Url.IsInside.of_plain isPlainName_domain.plain⟩⟩

theorem not_mem_front (api : Api) (hx : '@' ∉ x) : '@' ∉ api.endpointName.toList ++ '.' :: x := by
  have name : '@' ∉ api.endpointName.toList := (isPlainName_endpointName api).not_mem rfl
  simp [name, hx]

theorem afterSlashes_eq (api : Api) (region : String) : afterSlashes api region =
    api.endpointName.toList ++ '.' :: (shownRegion region ++ '.' :: domain) ++ '/' :: [] := by
  rw [afterSlashes]
  simp

variable {api : Api} {region : String} {authority : Url.Authority} {rest : List Char}
  (h : Url.readAuthority "https".toList (afterSlashes api region) = .ok (authority, rest))
include h

theorem not_atProvider_of_name {t : List Char} {e : Char} (he : Url.endsAuthority .web e)
    (text : afterSlashes api region = api.endpointName.toList ++ '.' :: x ++ e :: t)
    (hx : Url.IsInside x) (named : '@' ∈ x) :
    ¬ AtProvider api (Url.withAuthority "https".toList authority rest) := by
  obtain ⟨first, name, hname, hf⟩ := endpointName_eq_cons api
  have inside : Url.IsInside (first :: (name ++ '.' :: x)) := by
    rw [← List.cons_append, ← hname]
    exact inside_front api hx
  rw [text, hname] at h
  intro provider
  obtain ⟨host, ha, -⟩ := provider.authority
  apply Url.readAuthority_named rfl hf inside he (by simp [named]) h
  rw [Option.some.inj ha]

theorem not_atProvider_of_end {before after : List Char} {e : Char}
    (he : Url.endsAuthority .web e) (hb : Url.IsInside before)
    (shown : shownRegion region = before ++ e :: after) :
    ¬ AtProvider api (Url.withAuthority "https".toList authority rest) := by
  have text : afterSlashes api region = api.endpointName.toList ++ '.' :: before ++
      e :: (after ++ ('.' :: domain ++ ['/'])) := by
    rw [afterSlashes, shown]
    simp
  by_cases named : '@' ∈ before
  · exact not_atProvider_of_name h he text hb named
  · rw [text] at h
    obtain ⟨rfl, -⟩ :=
      Url.readAuthority_plain rfl (inside_front api hb) he (not_mem_front api named) h
    have long : Url.IsLong ('.' :: domain) := ⟨by decide, by decide⟩
    exact fun provider => Url.not_atRoot_long rfl he long authority after provider.toAtRoot

theorem atProvider_of_inside (inside : Url.IsInside (shownRegion region))
    (unnamed : '@' ∉ shownRegion region) :
    AtProvider api (Url.withAuthority "https".toList authority rest) := by
  have noName : '@' ∉ shownRegion region ++ '.' :: domain := by
    simp [isPlainName_domain.not_mem (c := '@') rfl, unnamed]
  have last : (api.endpointName.toList ++ '.' :: (shownRegion region ++ '.' :: domain)).getLast? =
      some 'm' := by
    have ending : domain.getLast? = some 'm' := rfl
    rw [List.getLast?_append, List.getLast?_cons, List.getLast?_append, List.getLast?_cons, ending]
    rfl
  obtain ⟨first, more, hname, -⟩ := endpointName_eq_cons api
  rw [afterSlashes_eq] at h
  obtain ⟨rfl, reads⟩ := Url.readAuthority_plain rfl (inside_front api (inside_back inside))
    (by decide) (not_mem_front api noName) h
  obtain ⟨parsed, port⟩ := reads.eq_text last (by decide) rfl
  obtain ⟨t, host⟩ := Url.Host.parse_between (isPlainName_endpointName api) (by simp [hname])
    isPlainName_domain (by decide) (by decide) parsed
  have root : Url.AtRoot (Url.withAuthority "https".toList authority ['/']) :=
    Url.atRoot_slash rfl authority
  refine ⟨root, rfl, api.endpointName.toList ++ '.' :: (t ++ '.' :: domain), ?_, ?_, ?_⟩
  · obtain ⟨username, password, -⟩ := reads
    cases authority
    simp only at username password port host
    rw [username, password, port, host]
    rfl
  · exact ⟨t ++ '.' :: domain, by simp⟩
  · have point : ".amazonaws.com".toList = '.' :: domain := rfl
    exact ⟨api.endpointName.toList ++ '.' :: t, by rw [point]; simp⟩

end Endpoint

/-- An address that was made for a region leads to the provider exactly when the region has no
character that ends the authority or the name in it. -/
theorem endpoint_atProvider_iff {client : Client} {api : Api} {region : String} {url : Url}
    (unset : client.endpointUrl = none) (h : client.endpoint api region = .ok url) :
    AtProvider api url ↔ ∀ c ∈ region.toList, c ∉ ['/', '\\', '?', '#', '@'] := by
  have parsed : Url.parse (endpointText api region).toList = .ok url := by
    rw [endpoint, unset] at h
    exact eq_ok_of_mapError h
  rw [parse_endpointText] at parsed
  obtain ⟨⟨authority, rest⟩, read, rfl⟩ := eq_ok_of_map parsed
  simp only [← isDelimiter_iff]
  rw [← isDelimiter_shown]
  -- The authority ends within the region, or with the slash that was written after it.
  obtain inside | ⟨before, e, after, shown, hb, he⟩ := Url.inside_or (shownRegion region)
  · by_cases named : '@' ∈ shownRegion region
    · refine iff_of_false ?_ fun quiet => absurd (quiet '@' named) (by decide)
      exact not_atProvider_of_name read rfl (afterSlashes_eq api region) (inside_back inside)
        (List.mem_append_left _ named)
    · have quiet : ∀ c ∈ shownRegion region, isDelimiter c = false := by
        intro c hc
        have other : c ≠ '@' := fun hn => named (hn ▸ hc)
        rw [isDelimiter, inside c hc, decide_eq_false other]
        rfl
      exact iff_of_true (atProvider_of_inside read inside named) quiet
  · refine iff_of_false (not_atProvider_of_end read he hb shown) fun quiet => ?_
    have ends := quiet e (by rw [shown]; simp)
    rw [isDelimiter, he] at ends
    contradiction

theorem endpoint_atProvider_in_region :
    ∃ url, (⟨none, none, fun _ => .absent⟩ : Client).endpoint .ec2 "eu-west-1" = .ok url ∧
      AtProvider .ec2 url := by
  have made : (⟨none, none, fun _ => .absent⟩ : Client).endpoint .ec2 "eu-west-1" =
      .ok ⟨"https".toList, some ⟨[], [], .domain "ec2.eu-west-1.amazonaws.com".toList, none⟩,
        .segments [[]], none, none⟩ :=
    eq_ok_of_toOption (by decide +kernel)
  have quiet : "eu-west-1".toList.all (fun c => c ∉ ['/', '\\', '?', '#', '@']) := by decide
  exact ⟨_, made, (endpoint_atProvider_iff rfl made).mpr
    fun c hc => of_decide_eq_true (List.all_eq_true.mp quiet c hc)⟩

theorem endpoint_of_region_with_slash :
    Region.given? (some "example.org/") = some "example.org/" ∧
    ∃ url, (⟨none, none, fun _ => .absent⟩ : Client).endpoint .ec2 "example.org/" = .ok url ∧
      url.render = "https://ec2.example.org/.amazonaws.com/".toList ∧
      url.authority = some ⟨[], [], .domain "ec2.example.org".toList, none⟩ ∧
      ¬ AtProvider .ec2 url := by
  have made : (⟨none, none, fun _ => .absent⟩ : Client).endpoint .ec2 "example.org/" =
      .ok ⟨"https".toList, some ⟨[], [], .domain "ec2.example.org".toList, none⟩,
        .segments [".amazonaws.com".toList, []], none, none⟩ :=
    eq_ok_of_toOption (by decide +kernel)
  refine ⟨by rfl, _, made, by decide, rfl, fun provider => ?_⟩
  exact absurd provider.path (by decide)

end Client

end CloudLookup
