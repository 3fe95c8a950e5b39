import CloudLookup.Client.Basic

/-! What can be sent in headers. The parts of a signature can, but for the keys and the region,
which are written as they are given. -/
namespace CloudLookup.Signature

def Sendable (s : String) : Prop := ∀ c ∈ s.toList, isValueChar c = true

instance (s : String) : Decidable (Sendable s) :=
  decidable_of_iff (s.toList.all isValueChar = true) List.all_eq_true

theorem all_isValueChar_iff {s : String} : s.toList.all isValueChar ↔ Sendable s := List.all_eq_true

theorem sendable_ofList {s : List Char} (h : s.all isValueChar) : Sendable (String.ofList s) :=
  all_isValueChar_iff.mp (by rwa [String.toList_ofList])

theorem isValueChar_of_toNat {c : Char} (h : 0x20 ≤ c.toNat) (hd : c.toNat < 0x7F) :
    isValueChar c := by
  have hs : ' ' ≤ c := h
  unfold isValueChar
  rw [decide_eq_true hs, decide_eq_true (Nat.ne_of_lt hd)]
  rfl

theorem isValueChar_of_isDigit {c : Char} (h : c.isDigit) : isValueChar c := by
  unfold Char.isDigit at h
  rw [Bool.and_eq_true, decide_eq_true_eq, decide_eq_true_eq] at h
  have h₁ : 48 ≤ c.toNat := h.1
  have h₂ : c.toNat ≤ 57 := h.2
  exact isValueChar_of_toNat (by omega) (by omega)

theorem isValueChar_of_isNameChar {c : Char} (h : isNameChar c) : isValueChar c := by
  have marks : "!#$%&'*+-.^_\x60|~".toList.all isValueChar := by rfl
  unfold isNameChar Char.isAlphanum Char.isAlpha Char.isUpper Char.isLower at h
  rw [Bool.or_eq_true, Bool.or_eq_true, Bool.or_eq_true, Bool.and_eq_true, decide_eq_true_eq,
    decide_eq_true_eq, decide_eq_true_eq] at h
  obtain ((⟨h₁, h₂⟩ | ⟨h₁, h₂⟩) | h) | h := h
  · have h₁ : 65 ≤ c.toNat := h₁
    have h₂ : c.toNat ≤ 90 := h₂
    exact isValueChar_of_toNat (by omega) (by omega)
  · have h₁ : 97 ≤ c.toNat := h₁
    have h₂ : c.toNat ≤ 122 := h₂
    exact isValueChar_of_toNat (by omega) (by omega)
  · exact isValueChar_of_isDigit h
  · exact List.all_eq_true.mp marks c (List.contains_iff_mem.mp h)

theorem all_decimal (n : Nat) : (Text.decimal n).all isValueChar := by
  apply List.all_eq_true.mpr
  intro c hc
  exact isValueChar_of_isDigit (Nat.isDigit_of_mem_toDigits (by decide) (by decide) hc)

theorem all_padded (width n : Nat) : (padded width n).all isValueChar := by
  unfold padded
  dsimp only
  rw [List.all_append, all_decimal, Bool.and_true, List.all_replicate]
  split
  · rfl
  · decide

theorem all_dateText (time : Nat) : (dateText time).all isValueChar := by
  unfold dateText
  dsimp only
  rw [List.all_append, List.all_append, all_padded, all_padded, all_padded]
  rfl

theorem all_timeText (time : Nat) : (timeText time).all isValueChar := by
  unfold timeText
  dsimp only
  simp only [List.all_append, List.all_cons, all_dateText, all_padded]
  decide

theorem all_hex (bytes : List UInt8) : (hex bytes).all isValueChar := by
  have digit : ∀ n < 16, isValueChar (Nat.digitChar n) = true := by decide
  unfold hex
  rw [List.all_flatMap]
  apply List.all_eq_true.mpr
  intro b _
  have hb := b.toNat_lt
  rw [List.all_cons, List.all_cons, digit _ (by omega), digit _ (by omega)]
  rfl

theorem isValueChar_base64Letter (n place : Nat) : isValueChar (Text.base64Letter n place) := by
  have letters : Text.base64Letters.all isValueChar = true := by decide
  unfold Text.base64Letter
  rw [List.getD_eq_getElem?_getD]
  cases h : Text.base64Letters[n >>> place % 64]? with
  | none => decide
  | some c => exact List.all_eq_true.mp letters c (List.mem_of_getElem? h)

theorem all_base64 (bytes : List UInt8) : (Text.base64 bytes).all isValueChar := by
  fun_induction Text.base64 bytes with
  | case1 => rfl
  | case2 a n =>
    simp only [List.all_cons, isValueChar_base64Letter, Bool.true_and]
    decide
  | case3 a b n =>
    simp only [List.all_cons, isValueChar_base64Letter, Bool.true_and]
    decide
  | case4 a b c s n ih => simp only [List.all_cons, isValueChar_base64Letter, Bool.true_and, ih]

def NamesSendable (headers : Headers) : Prop := ∀ h ∈ headers, h.1.all isValueChar = true

theorem normalizeHeaders?_cons {header : String × String} {headers : List (String × String)}
    {given : Headers} (h : normalizeHeaders? (header :: headers) = some given) :
    ∃ value rest, given = (lowerName header.1.toList, value) :: rest ∧
      (lowerName header.1.toList).all isNameChar = true ∧
        normalizeHeaders? headers = some rest := by
  unfold normalizeHeaders? at h ⊢
  rw [List.mapM_cons] at h
  obtain ⟨p, hp, h⟩ := Option.bind_eq_some_iff.mp h
  obtain ⟨rest, hr, h⟩ := Option.bind_eq_some_iff.mp h
  dsimp only at hp
  split at hp
  · rename_i hn
    obtain rfl := Option.some.inj hp
    rw [Bool.and_eq_true, Bool.and_eq_true] at hn
    exact ⟨_, rest, (Option.some.inj h).symm, hn.1.2, hr⟩
  · contradiction

theorem namesSendable_normalizeHeaders? {headers : List (String × String)} {given : Headers}
    (h : normalizeHeaders? headers = some given) : NamesSendable given := by
  induction headers generalizing given with
  | nil =>
    obtain rfl := Option.some.inj h
    intro p hp
    exact absurd hp List.not_mem_nil
  | cons header headers ih =>
    obtain ⟨value, rest, rfl, hn, hr⟩ := normalizeHeaders?_cons h
    refine List.forall_mem_cons.mpr ⟨?_, ih hr⟩
    exact List.all_eq_true.mpr fun c hc =>
      isValueChar_of_isNameChar (List.all_eq_true.mp hn c hc)

theorem namesSendable_setHeader (name : String) (hn : Sendable name) (value : List Char)
    {headers : Headers} (h : NamesSendable headers) :
    NamesSendable (setHeader name value headers) := by
  intro p hp
  obtain hp | hp := List.mem_append.mp hp
  · exact h p (List.mem_filter.mp hp).1
  · obtain rfl := List.mem_singleton.mp hp
    exact all_isValueChar_iff.mpr hn

theorem namesSendable_coveredHeaders? {credentials : Credentials} {location : Location}
    {time : Nat} {headers : List (String × String)} {covered : Headers}
    (h : coveredHeaders? credentials location time headers = some covered) :
    NamesSendable covered := by
  obtain ⟨given, hg, h⟩ := Option.bind_eq_some_iff.mp h
  have hgiven := namesSendable_normalizeHeaders? hg
  have hhosted : NamesSendable (if given.any fun h => h.1 = "host".toList then given
      else given ++ [("host".toList, location.signedHost)]) := by
    split
    · exact hgiven
    · intro p hp
      obtain hp | hp := List.mem_append.mp hp
      · exact hgiven p hp
      · obtain rfl := List.mem_singleton.mp hp
        rfl
  have hdated := namesSendable_setHeader "x-amz-date" (by decide) (timeText time) hhosted
  dsimp only at h
  split at h
  · obtain rfl := Option.some.inj h
    exact hdated
  · split at h
    · obtain rfl := Option.some.inj h
      exact namesSendable_setHeader _ (by decide) _ hdated
    · contradiction

theorem all_join {separator : List Char} {parts : List (List Char)}
    (hs : separator.all isValueChar) (hp : ∀ part ∈ parts, part.all isValueChar = true) :
    (Text.join separator parts).all isValueChar := by
  unfold Text.join
  induction parts with
  | nil => rfl
  | cons part parts ih =>
    obtain ⟨h, hp⟩ := List.forall_mem_cons.mp hp
    cases parts with
    | nil => simpa using h
    | cons next parts =>
      rw [List.intersperse_cons_cons, List.flatten_cons, List.flatten_cons, List.all_append,
        List.all_append, h, hs, ih hp]
      rfl

theorem all_signedNames {headers : Headers} (h : NamesSendable headers) :
    (Text.join [';'] (signedNames headers)).all isValueChar := by
  apply all_join (by decide)
  intro name hn
  unfold signedNames at hn
  rw [List.mem_mergeSort, List.mem_eraseDups] at hn
  obtain ⟨p, hp, rfl⟩ := List.mem_map.mp (List.mem_filter.mp hn).1
  exact h p hp

def authorization (credentials : Credentials) (service region : String) (time : Nat)
    (headers : Headers) (signature : List UInt8) : String :=
  let names := String.ofList (Text.join [';'] (signedNames headers))
  let scopeText := String.ofList (scope time region service)
  s!"AWS4-HMAC-SHA256 Credential={credentials.accessKey}/{scopeText}, " ++
    s!"SignedHeaders={names}, Signature={String.ofList (hex signature)}"

theorem sendable_authorization_iff {credentials : Credentials} {service region : String}
    {time : Nat} {headers : Headers} {signature : List UInt8} (hs : Sendable service)
    (hn : NamesSendable headers) :
    Sendable (authorization credentials service region time headers signature) ↔
      Sendable credentials.accessKey ∧ Sendable region := by
  have parts : (authorization credentials service region time headers signature).toList =
      "AWS4-HMAC-SHA256 Credential=".toList ++ credentials.accessKey.toList ++ "/".toList ++
        (dateText time ++ '/' :: region.toList ++ '/' :: service.toList ++
          "/aws4_request".toList) ++ ", ".toList ++
        ("SignedHeaders=".toList ++ Text.join [';'] (signedNames headers) ++
          ", Signature=".toList ++ hex signature) := by
    unfold authorization scope
    dsimp only [toString]
    simp only [String.toList_append, String.toList_ofList]
  -- All parts can be sent but those in question.
  have h₁ : "AWS4-HMAC-SHA256 Credential=".toList.all isValueChar = true := by decide
  have h₂ : "/".toList.all isValueChar = true := by decide
  have h₃ : "/aws4_request".toList.all isValueChar = true := by decide
  have h₄ : ", ".toList.all isValueChar = true := by decide
  have h₅ : "SignedHeaders=".toList.all isValueChar = true := by decide
  have h₆ : ", Signature=".toList.all isValueChar = true := by decide
  have h₇ : isValueChar '/' = true := by decide
  rw [← all_isValueChar_iff, ← all_isValueChar_iff, ← all_isValueChar_iff, parts]
  simp only [List.all_append, List.all_cons, h₁, h₂, h₃, h₄, h₅, h₆, h₇, all_dateText, all_hex,
    all_signedNames hn, all_isValueChar_iff.mpr hs, Bool.true_and, Bool.and_true, Bool.and_eq_true]

/-- The region and the keys can be written in headers. -/
structure Fits (region : String) (credentials : Credentials) : Prop where
  region : Sendable region
  accessKey : Sendable credentials.accessKey
  token : ∀ token ∈ credentials.sessionToken, Sendable token

def added (credentials : Credentials) (service region : String) (time : Nat) (headers : Headers)
    (signature : List UInt8) : List (String × String) :=
  ("x-amz-date", String.ofList (timeText time)) ::
    ("authorization", authorization credentials service region time headers signature) ::
    credentials.sessionToken.toList.map fun token => ("x-amz-security-token", token)

section Sign

variable {credentials : Credentials} {service region : String} {time : Nat} {request : Signable}

theorem sendable_added_iff {headers : Headers} {signature : List UInt8} (hs : Sendable service)
    (hn : NamesSendable headers) :
    (∀ h ∈ added credentials service region time headers signature, Sendable h.2) ↔
      Fits region credentials := by
  unfold added
  rw [List.forall_mem_cons, List.forall_mem_cons, List.forall_mem_map,
    sendable_authorization_iff hs hn]
  constructor
  · rintro ⟨-, ⟨hk, hr⟩, ht⟩
    exact ⟨hr, hk, fun token h => ht token (Option.mem_toList.mpr h)⟩
  · intro h
    exact ⟨sendable_ofList (all_timeText time), ⟨h.accessKey, h.region⟩,
      fun token ht => h.token token (Option.mem_toList.mp ht)⟩

theorem sign_of_parse {location : Location} (h : Location.parse request.url.toList = .ok location) :
    ∃ signature : Headers → List UInt8, sign credentials service region time request =
      match coveredHeaders? credentials location time request.headers with
      | none => .error .invalidHeader
      | some headers =>
        .ok (added credentials service region time headers (signature headers)) := by
  unfold sign
  rw [h]
  exact ⟨_, rfl⟩

theorem sign_of_covered {location : Location} {headers : Headers}
    (hl : Location.parse request.url.toList = .ok location)
    (hh : coveredHeaders? credentials location time request.headers = some headers) :
    ∃ signature, sign credentials service region time request =
      .ok (added credentials service region time headers signature) := by
  obtain ⟨signature, hs⟩ := sign_of_parse hl
  rw [hh] at hs
  exact ⟨signature headers, hs⟩

theorem covered_of_sign {headers : List (String × String)}
    (h : sign credentials service region time request = .ok headers) :
    ∃ location covered signature,
      coveredHeaders? credentials location time request.headers = some covered ∧
        headers = added credentials service region time covered signature := by
  cases hl : Location.parse request.url.toList with
  | error flaw =>
    unfold sign at h
    rw [hl] at h
    contradiction
  | ok location =>
    obtain ⟨signature, hs⟩ := sign_of_parse hl
    rw [hs] at h
    cases hc : coveredHeaders? credentials location time request.headers with
    | none =>
      rw [hc] at h
      contradiction
    | some covered =>
      rw [hc] at h
      exact ⟨location, covered, signature covered, hc, (Except.ok.inj h).symm⟩

end Sign

end CloudLookup.Signature
