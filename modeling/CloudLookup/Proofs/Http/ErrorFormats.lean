import CloudLookup.Http.ErrorBody
import CloudLookup.Proofs.Json.Members
import CloudLookup.Proofs.Json.Printed
import CloudLookup.Proofs.Markup.Entity
import CloudLookup.Proofs.Text.Cutting

/-! One error in the two formats of bodies. From JSON its texts come back as they are, from XML as
they are written there, entities and all. -/
namespace CloudLookup

open Text (Passes Solid)

namespace ApiError

def IsJsonError (type message : String) (body : List Char) : Prop :=
  ∃ members : Json.Members, Json.parse body = .ok (.object members) ∧
    members.get? "__type" = some (.string type) ∧ members.get? "message" = some (.string message)

def jsonBody (type message : String) : List Char :=
  Json.print (.object [("__type", .string type), ("message", .string message)])

theorem isJsonError_jsonBody (type message : String) :
    IsJsonError type message (jsonBody type message) := by
  refine ⟨_, Json.parse_print_texts ("__type", type) [("message", message)], ?_, ?_⟩
  all_goals
    rw [Json.Members.get?_ofList]
    rfl

def errorTree (code message : String) : Markup.Tree :=
  .node ⟨"ErrorResponse", by decide, by decide⟩
    [.node ⟨"Error", by decide, by decide⟩
      [.leaf ⟨"Code", by decide, by decide⟩ code,
       .leaf ⟨"Message", by decide, by decide⟩ message]]

def xmlBody (code message : String) : List Char := (errorTree code message).write

section Json

variable {service code message : String} {body : List Char}

theorem ofBody_json (status : Nat) (hc : '#' ∉ code.toList)
    (h : IsJsonError (service ++ "#" ++ code) message body) :
    ofBody status body = ⟨status, some code, some message⟩ := by
  obtain ⟨members, parsed, type, text⟩ := h
  have ht : (service ++ "#" ++ code).toList = service.toList ++ '#' :: code.toList := by simp
  unfold ofBody
  rw [parsed]
  simp only [firstText?, List.findSome?_cons, Json.member?, type, text, Option.bind_some,
    Json.text?, Option.map_some, ht, Text.afterLast_append hc, String.ofList_toList]

end Json

section Xml

def tag (name : List Char) : List Char := '<' :: (name ++ ['>'])

theorem passes_tag {name other : List Char} (hn : '>' ∉ name) (ho : '>' ∉ other)
    (hs : '<' ∉ other) (h : name ≠ other) : Passes (tag name) (tag other) := by
  have after : '<' ∉ other ++ ['>'] := by simpa using hs
  apply Passes.cons _ (Passes.of_not_mem after)
  intro s
  rw [Text.strip?, if_pos rfl, List.append_assoc]
  exact Text.strip?_eq_none hn ho h s

theorem element?_append {name : String} {front content : List Char} (rest : List Char)
    (hf : Passes (tag name.toList) front) (hc : '<' ∉ content) :
    element? name (front ++ (tag name.toList ++
      (content ++ (tag ('/' :: name.toList) ++ rest)))) =
      some (Text.trim (String.ofList content)) := by
  have inside : Passes (tag ('/' :: name.toList)) content := Passes.of_not_mem hc
  have opening := hf (tag name.toList ++ (content ++ (tag ('/' :: name.toList) ++ rest)))
  have closing := inside (tag ('/' :: name.toList) ++ rest)
  rw [Text.splitAt?_append] at opening closing
  change (Text.splitAt? (tag name.toList) _).bind (fun p =>
    (Text.splitAt? (tag ('/' :: name.toList)) p.2).bind fun q =>
      some (Text.trim (String.ofList q.1))) = _
  rw [opening]
  change (Text.splitAt? _ _).bind _ = _
  rw [closing]
  change some (Text.trim (String.ofList (content ++ []))) = _
  rw [List.append_nil]

def escape (s : String) : String := String.ofList (s.toList.flatMap Markup.writeChar)

theorem lt_not_mem_escape (s : String) : '<' ∉ s.toList.flatMap Markup.writeChar := by
  rw [List.mem_flatMap]
  rintro ⟨c, -, h⟩
  exact Markup.lt_not_mem_writeChar c h

theorem trim_escape {s : String} (h : Text.trim s = s) : Text.trim (escape s) = escape s := by
  have solid : Solid Text.isBlank (s.toList.flatMap Markup.writeChar) :=
    Markup.solid_content (by decide) (by decide) (Text.solid_of_trim h)
  rw [Text.trim, escape, String.toList_ofList, solid.trimOf_eq]

theorem writeText_eq {s : String} (h : Text.trim s = s) :
    Markup.writeText s.toList = s.toList.flatMap Markup.writeChar := by
  have blank (c : Char) (hc : Markup.isBlank c) : Text.isBlank c := by
    obtain rfl | rfl | rfl | rfl := Markup.eq_of_isBlank hc
    all_goals decide
  exact Markup.writeText_of_solid ((Text.solid_of_trim h).mono blank)

def start : List Char := tag "ErrorResponse".toList ++ tag "Error".toList

theorem passes_start {name : List Char} (hn : '>' ∉ name) (hr : name ≠ "ErrorResponse".toList)
    (he : name ≠ "Error".toList) : Passes (tag name) start :=
  (passes_tag hn (by decide) (by decide) hr).append (passes_tag hn (by decide) (by decide) he)

variable {code message : String} (hc : Text.trim code = code) (hm : Text.trim message = message)
include hc hm

theorem xmlBody_eq : xmlBody code message =
    start ++ (tag "Code".toList ++ (code.toList.flatMap Markup.writeChar ++ (tag "/Code".toList ++
      (tag "Message".toList ++ (message.toList.flatMap Markup.writeChar ++
        (tag "/Message".toList ++ (tag "/Error".toList ++ tag "/ErrorResponse".toList))))))) := by
  simp only [xmlBody, errorTree, Markup.Tree.write, Markup.writeAll, Markup.writeElement,
    writeText_eq hc, writeText_eq hm, start, tag]
  simp

theorem element?_code : element? "Code" (xmlBody code message) = some (escape code) := by
  have passes : Passes (tag "Code".toList) start :=
    passes_start (by decide) (by decide) (by decide)
  rw [xmlBody_eq hc hm]
  exact (element?_append _ passes (lt_not_mem_escape code)).trans (congrArg some (trim_escape hc))

theorem element?_message : element? "Message" (xmlBody code message) = some (escape message) := by
  have opening : Passes (tag "Message".toList) (start ++ tag "Code".toList) :=
    (passes_start (by decide) (by decide) (by decide)).append
      (passes_tag (by decide) (by decide) (by decide) (by decide))
  have content : Passes (tag "Message".toList) (code.toList.flatMap Markup.writeChar) :=
    Passes.of_not_mem (lt_not_mem_escape code)
  have closing : Passes (tag "Message".toList) (tag "/Code".toList) :=
    passes_tag (by decide) (by decide) (by decide) (by decide)
  have found := element?_append (tag "/Error".toList ++ tag "/ErrorResponse".toList)
    ((opening.append content).append closing) (lt_not_mem_escape message)
  rw [xmlBody_eq hc hm]
  simp only [List.append_assoc] at found
  exact found.trans (congrArg some (trim_escape hm))

theorem ofBody_xml (status : Nat) :
    ofBody status (xmlBody code message) =
      ⟨status, some (escape code), some (escape message)⟩ := by
  obtain ⟨fault, noJson⟩ : ∃ fault, Json.parse (xmlBody code message) = .error fault := by
    rw [xmlBody_eq hc hm]
    exact ⟨_, rfl⟩
  unfold ofBody
  rw [noJson]
  dsimp only
  rw [element?_code hc hm, element?_message hc hm]

end Xml

section Entities

theorem length_le_escape (s : List Char) : s.length ≤ (s.flatMap Markup.writeChar).length := by
  induction s with
  | nil => exact Nat.le_refl 0
  | cons c s ih =>
    have one := List.length_pos_iff.mpr (Markup.writeChar_ne_nil c)
    rw [List.flatMap_cons, List.length_append, List.length_cons]
    omega

def IsEscaped (c : Char) : Prop := c = '&' ∨ c = '<' ∨ c = '>'

instance (c : Char) : Decidable (IsEscaped c) := inferInstanceAs (Decidable (_ ∨ _ ∨ _))

theorem writeChar_cases (c : Char) :
    IsEscaped c ∧ 1 < (Markup.writeChar c).length ∨ ¬ IsEscaped c ∧ Markup.writeChar c = [c] := by
  unfold Markup.writeChar IsEscaped
  split
  · exact .inl ⟨by decide, by decide⟩
  · exact .inl ⟨by decide, by decide⟩
  · exact .inl ⟨by decide, by decide⟩
  · rename_i ha hl hg
    refine .inr ⟨?_, rfl⟩
    rintro (h | h | h)
    · exact ha h
    · exact hl h
    · exact hg h

theorem escape_eq_iff (s : String) : escape s = s ↔ ∀ c ∈ s.toList, ¬ IsEscaped c := by
  have general (l : List Char) : l.flatMap Markup.writeChar = l ↔ ∀ c ∈ l, ¬ IsEscaped c := by
    induction l with
    | nil => simp
    | cons c l ih =>
      rw [List.flatMap_cons, List.forall_mem_cons, ← ih]
      obtain ⟨he, long⟩ | ⟨hp, hw⟩ := writeChar_cases c
      · refine ⟨fun h => ?_, fun h => absurd he h.1⟩
        have length := congrArg List.length h
        have rest := length_le_escape l
        rw [List.length_append, List.length_cons] at length
        omega
      · rw [hw, List.singleton_append, List.cons_inj_right]
        exact ⟨fun h => ⟨hp, h⟩, fun h => h.2⟩
  rw [← general, escape, ← String.toList_inj, String.toList_ofList]

end Entities

/-- The error has one meaning in both formats: itself. -/
structure MeansItself (status : Nat) (service code message : String) : Prop where
  json : ∀ body, IsJsonError (service ++ "#" ++ code) message body →
    ofBody status body = ⟨status, some code, some message⟩
  printed : ofBody status (jsonBody (service ++ "#" ++ code) message) =
    ⟨status, some code, some message⟩
  xml : ofBody status (xmlBody code message) = ⟨status, some code, some message⟩

/-- The formats agree on an error exactly when none of its characters is escaped in XML. -/
theorem meansItself_iff (status : Nat) (service code message : String) (hash : '#' ∉ code.toList)
    (trimmedCode : Text.trim code = code) (trimmedMessage : Text.trim message = message) :
    MeansItself status service code message ↔
      ∀ c ∈ code.toList ++ message.toList, ¬ IsEscaped c := by
  have decoded := ofBody_xml trimmedCode trimmedMessage status
  rw [List.forall_mem_append, ← escape_eq_iff, ← escape_eq_iff]
  constructor
  · intro same
    have h := decoded.symm.trans same.xml
    rw [ApiError.mk.injEq, Option.some_inj, Option.some_inj] at h
    exact h.2
  · rintro ⟨hc, hm⟩
    rw [hc, hm] at decoded
    exact ⟨fun _ => ofBody_json status hash, ofBody_json status hash (isJsonError_jsonBody _ _),
      decoded⟩

theorem meansItself_throttling :
    '#' ∉ "ThrottlingException".toList ∧ MeansItself 400 "com.amazon.coral.service"
      "ThrottlingException" "Rate exceeded, \"slow down\"" := by
  have plain : ("ThrottlingException".toList ++ "Rate exceeded, \"slow down\"".toList).all
      (fun c => ¬ IsEscaped c) := by decide
  exact ⟨by decide, (meansItself_iff 400 "com.amazon.coral.service" "ThrottlingException"
    "Rate exceeded, \"slow down\"" (by decide) (by decide) (by decide)).mpr
      fun c hc => of_decide_eq_true (List.all_eq_true.mp plain c hc)⟩

theorem ampersand_stays_escaped :
    xmlBody "Bad" "a & b" = ("<ErrorResponse><Error><Code>Bad</Code>" ++
      "<Message>a &amp; b</Message></Error></ErrorResponse>").toList ∧
    ofBody 400 (xmlBody "Bad" "a & b") = ⟨400, some "Bad", some "a &amp; b"⟩ ∧
    ¬ MeansItself 400 "service" "Bad" "a & b" := by
  have read : ofBody 400 (xmlBody "Bad" "a & b") = ⟨400, some "Bad", some "a &amp; b"⟩ := by
    decide
  refine ⟨by decide, read, fun h => ?_⟩
  have same := read.symm.trans h.xml
  exact absurd same (by decide)

end ApiError
end CloudLookup
