import CloudLookup.Proofs.Json.Printed
import CloudLookup.Proofs.Text.Utf8
import CloudLookup.Settings

/-! Settings and the file that holds them. Saved settings are loaded again, and of a file that does
not give settings nothing is used. -/
namespace CloudLookup.Settings

open Json (Flat Gap Listed Member Reads Takes Value)

variable {s : Settings} {given : List (String × Json)} {items : List Json}
  {text rest : List Char}

section Members

def textOrNull : Option String → Json
  | some text => .string text
  | none => .null

def members (s : Settings) : List (String × Json) :=
  [("region", textOrNull s.region), ("strict", .bool s.strict),
    ("endpoint_url", textOrNull s.endpointUrl)]

def values (s : Settings) : List Json := s.members.map Prod.snd

/-- Each setting is the one member of its name; or none has the name, and it is the standard one. -/
def Gives (given : List (String × Json)) (s : Settings) : Prop :=
  ∀ m ∈ s.members, given.filter (fun n => n.1 = m.1) = [m] ∨
    (∀ n ∈ given, n.1 ≠ m.1) ∧ m ∈ standard.members

/-- The items are the values of the settings, up to values at the end that are the standard ones. -/
def GivesItems (items : List Json) (s : Settings) : Prop :=
  items ++ standard.values.drop items.length = s.values

theorem flat_textOrNull (text? : Option String) : Flat (textOrNull text?) := by
  cases text? <;> trivial

theorem flat_members : ∀ m ∈ s.members, Flat m.2 := by
  have bool (b : Bool) : Flat (.bool b) := trivial
  simp [members, flat_textOrNull, bool]

theorem mem_names : ∀ m ∈ s.members, m.1 ∈ names := by
  simp [members, names]

theorem exists_mem_of_name {name : String} (h : name ∈ names) : ∃ m ∈ s.members, m.1 = name :=
  List.mem_map.mp (show name ∈ s.members.map Prod.fst from h)

theorem textOrNull_inj {a b : Option String} : textOrNull a = textOrNull b ↔ a = b := by
  cases a <;> cases b <;> simp [textOrNull]

theorem optionalText?_eq_some_iff (v : Json) (a : Option String) :
    optionalText? v = some a ↔ v = textOrNull a := by
  cases v <;> cases a <;> simp [optionalText?, textOrNull]

theorem truth?_eq_some_iff (v : Json) (b : Bool) : truth? v = some b ↔ v = .bool b := by
  cases v <;> simp [truth?]

theorem one?_eq_some_iff {read : Json → Option α} {write : α → Json}
    (h : ∀ v a, read v = some a ↔ v = write a) {default a : α} {found : List Json} :
    one? read default found = some a ↔ found = [write a] ∨ found = [] ∧ a = default := by
  match found with
  | [] => simp [one?, eq_comm]
  | [v] => simp [one?, h]
  | _ :: _ :: _ => simp [one?]

theorem map_snd_filter_eq_iff {name : String} {v : Json} :
    (given.filter fun n => n.1 = name).map Prod.snd = [v] ↔
      given.filter (fun n => n.1 = name) = [(name, v)] := by
  have named : ∀ n ∈ given.filter fun n => n.1 = name, n.1 = name := by simp
  constructor
  · intro h
    obtain ⟨n, found, rfl⟩ := List.map_eq_singleton_iff.mp h
    rw [found, ← named n (by rw [found]; exact List.mem_cons_self)]
  · intro h
    rw [h]
    rfl

theorem gives_iff : Gives given s ↔
    (given.filter (fun n => n.1 = "region") = [("region", textOrNull s.region)] ∨
      (∀ n ∈ given, n.1 ≠ "region") ∧ s.region = standard.region) ∧
    (given.filter (fun n => n.1 = "strict") = [("strict", .bool s.strict)] ∨
      (∀ n ∈ given, n.1 ≠ "strict") ∧ s.strict = standard.strict) ∧
    (given.filter (fun n => n.1 = "endpoint_url") = [("endpoint_url", textOrNull s.endpointUrl)] ∨
      (∀ n ∈ given, n.1 ≠ "endpoint_url") ∧ s.endpointUrl = standard.endpointUrl) := by
  simp [Gives, members, textOrNull_inj]

theorem ofMembers?_eq_some_iff : ofMembers? given = some s ↔ Gives given s := by
  simp only [ofMembers?, bind, Option.bind_eq_some_iff, one?_eq_some_iff optionalText?_eq_some_iff,
    one?_eq_some_iff truth?_eq_some_iff, gives_iff, map_snd_filter_eq_iff, List.map_eq_nil_iff,
    List.filter_eq_nil_iff, decide_eq_true_eq]
  constructor
  · rintro ⟨region, hr, strict, hs, endpointUrl, he, h⟩
    cases h
    exact ⟨hr, hs, he⟩
  · rintro ⟨hr, hs, he⟩
    exact ⟨_, hr, _, hs, _, he, rfl⟩

theorem ofItems?_eq_some_iff : ofItems? items = some s ↔ GivesItems items s := by
  have parts : ofItems? items = some s ↔ items.length ≤ names.length ∧
      (items.take 1 = [textOrNull s.region] ∨ items.take 1 = [] ∧ s.region = standard.region) ∧
      ((items.drop 1).take 1 = [.bool s.strict] ∨
        (items.drop 1).take 1 = [] ∧ s.strict = standard.strict) ∧
      (items.drop 2 = [textOrNull s.endpointUrl] ∨
        items.drop 2 = [] ∧ s.endpointUrl = standard.endpointUrl) := by
    rw [← Nat.not_lt]
    unfold ofItems?
    by_cases long : names.length < items.length
    · simp [long]
    · simp only [long, if_false, bind, Option.bind_eq_some_iff,
        one?_eq_some_iff optionalText?_eq_some_iff, one?_eq_some_iff truth?_eq_some_iff]
      constructor
      · rintro ⟨region, hr, strict, hs, endpointUrl, he, h⟩
        cases h
        exact ⟨not_false, hr, hs, he⟩
      · rintro ⟨-, hr, hs, he⟩
        exact ⟨_, hr, _, hs, _, he, rfl⟩
  rw [parts, GivesItems]
  match items with
  | [] => simp [values, members, names, textOrNull_inj, eq_comm]
  | [a] => simp [values, members, names, textOrNull_inj, eq_comm]
  | [a, b] => simp [values, members, names, textOrNull_inj, eq_comm]
  | [a, b, c] => simp [values, members, names]
  | _ :: _ :: _ :: _ :: _ => simp [values, members, names]

end Members

section Text

def rulesOf (name : String) : Json.Rules :=
  if names.contains name then Json.strict else Json.lenient

def Valued (depth : Nat) (name : String) : List Char → Json → List Char → Prop :=
  Value (rulesOf name) depth

def StartsObject (text : List Char) (given : List (String × Json)) (rest : List Char) : Prop :=
  ∃ s depth, Gap text ('\x7b' :: s) ∧
    Listed '\x7d' (Member Json.strict (Valued depth)) true s given rest

def StartsArray (text : List Char) (items : List Json) (rest : List Char) : Prop :=
  ∃ s depth, Gap text ('[' :: s) ∧ Listed ']' (Value Json.strict depth) true s items rest

def Denotes (text : List Char) (s : Settings) : Prop :=
  (∃ given rest, StartsObject text given rest ∧ Gap rest [] ∧ Gives given s) ∨
    ∃ items rest, StartsArray text items rest ∧ Gap rest [] ∧ GivesItems items s

theorem takes_readSetting (depth : Nat) (name : String) :
    Takes (readSetting depth name) (Valued (if names.contains name then 0 else depth) name) := by
  unfold readSetting Valued rulesOf
  split
  · exact Json.takes_value Json.strict 0
  · exact Json.takes_value Json.lenient depth

section Object

variable {t : List Char} {depth : Nat}

theorem listed_bounded {depths : String → Nat}
    (listed : Listed '\x7d' (Member Json.strict fun name => Valued (depths name) name) true t given
      rest) :
    Listed '\x7d' (Member Json.strict (Valued t.length)) true t given rest :=
  listed.imp_members Value.shorter (fun _ _ _ _ le h => Value.of_length_le h le) (Nat.le_refl _)

theorem listed_of_reads
    (h : Reads (Json.readMembers Json.strict (readSetting depth) true) t given rest) :
    Listed '\x7d' (Member Json.strict (Valued t.length)) true t given rest :=
  listed_bounded ((Json.reads_members_iff (takes_readSetting depth)).mp h)

theorem reads_of_listed
    (listed : Listed '\x7d' (Member Json.strict (Valued depth)) true t given rest)
    (flat : ∀ m ∈ given, m.1 ∈ names → Flat m.2) :
    Reads (Json.readMembers Json.strict (readSetting t.length) true) t given rest := by
  refine (Json.reads_members_iff (takes_readSetting t.length)).mpr ?_
  refine listed.imp_members Value.shorter ?_ (Nat.le_refl _)
  intro m mem s rest le h
  split
  · rename_i known
    exact (flat m mem (List.contains_iff_mem.mp known)).scalar h
  · exact Value.of_length_le h le

theorem StartsObject.reads (h : StartsObject text given rest) (start : Gap text ('\x7b' :: t)) :
    Reads (Json.readMembers Json.strict (fun name => Json.readValue (rulesOf name) t.length) true)
      t given rest := by
  obtain ⟨t', depth, start', listed⟩ := h
  have skipped := (Json.gap_cons_iff (by decide)).mp start'
  rw [(Json.gap_cons_iff (by decide)).mp start] at skipped
  cases skipped
  have takes (name : String) := Json.takes_value (rulesOf name) t.length
  exact (Json.reads_members_iff takes).mpr (listed_bounded listed)

theorem StartsObject.unique {given' : List (String × Json)} {rest' : List Char}
    (h : StartsObject text given rest) (h' : StartsObject text given' rest') :
    given = given' ∧ rest = rest' := by
  obtain ⟨t, depth, start, listed⟩ := h
  have reads := StartsObject.reads ⟨t, depth, start, listed⟩ start
  exact reads.unique (h'.reads start)

end Object

theorem Gives.mem (h : Gives given s) {m : String × Json} (mem : m ∈ given) (known : m.1 ∈ names) :
    m ∈ s.members := by
  obtain ⟨n, hn, name⟩ := exists_mem_of_name (s := s) known
  obtain found | ⟨absent, -⟩ := h n hn
  · have hm : m ∈ given.filter fun k => k.1 = n.1 := by simpa [name] using mem
    rw [found] at hm
    rwa [List.mem_singleton.mp hm]
  · exact absurd name.symm (absent m mem)

theorem GivesItems.flat (h : GivesItems items s) : ∀ v ∈ items, Flat v := by
  intro v mem
  have hv : v ∈ s.values := h ▸ List.mem_append_left _ mem
  obtain ⟨m, hm, rfl⟩ := List.mem_map.mp hv
  exact flat_members m hm

theorem denotes_of_parse? (h : parse? text = some s) : Denotes text s := by
  unfold parse? at h
  split at h
  · rename_i t ht
    obtain ⟨given, read, give⟩ := Option.bind_eq_some_iff.mp h
    obtain ⟨rest, reads, blank⟩ := Json.readAll_eq_ok_iff.mp (eq_ok_of_toOption read)
    have start : StartsObject text given rest :=
      ⟨t, _, (Json.gap_cons_iff (by decide)).mpr ht, listed_of_reads reads⟩
    exact .inl ⟨given, rest, start, blank, ofMembers?_eq_some_iff.mp give⟩
  · rename_i t ht
    obtain ⟨items, read, give⟩ := Option.bind_eq_some_iff.mp h
    obtain ⟨rest, reads, blank⟩ := Json.readAll_eq_ok_iff.mp (eq_ok_of_toOption read)
    have listed := (Json.reads_items_iff (Json.takes_value Json.strict 0) Value.opens).mp reads
    have start : StartsArray text items rest :=
      ⟨t, 0, (Json.gap_cons_iff (by decide)).mpr ht, listed⟩
    exact .inr ⟨items, rest, start, blank, ofItems?_eq_some_iff.mp give⟩
  · contradiction

theorem parse?_object (h : StartsObject text given rest) (blank : Gap rest [])
    (gives : Gives given s) : parse? text = some s := by
  obtain ⟨t, depth, start, listed⟩ := h
  have reads := reads_of_listed listed fun m mem known => flat_members m (gives.mem mem known)
  have read := Json.readAll_eq_ok_iff.mpr ⟨rest, reads, blank⟩
  simp only [parse?, (Json.gap_cons_iff (by decide)).mp start, read, Except.toOption, bind,
    Option.bind, ofMembers?_eq_some_iff.mpr gives]

theorem parse?_array (h : StartsArray text items rest) (blank : Gap rest [])
    (gives : GivesItems items s) : parse? text = some s := by
  obtain ⟨t, depth, start, listed⟩ := h
  have flat := listed.imp Value.shorter (fun mem _ h => (gives.flat _ mem).scalar h)
    (Nat.le_refl _)
  have reads := (Json.reads_items_iff (Json.takes_value Json.strict 0) Value.opens).mpr flat
  have read := Json.readAll_eq_ok_iff.mpr ⟨rest, reads, blank⟩
  simp only [parse?, (Json.gap_cons_iff (by decide)).mp start, read, Except.toOption, bind,
    Option.bind, ofItems?_eq_some_iff.mpr gives]

theorem parse?_eq_some_iff : parse? text = some s ↔ Denotes text s := by
  constructor
  · exact denotes_of_parse?
  · rintro (⟨given, rest, start, blank, gives⟩ | ⟨items, rest, start, blank, gives⟩)
    · exact parse?_object start blank gives
    · exact parse?_array start blank gives

end Text

section Saved

/-- The members are those of the settings in any order. Nulls may be left out, and members of other
names added. -/
def Restates (s : Settings) (given : List (String × Json)) : Prop :=
  ∃ kept others, given.Perm (kept ++ others) ∧ kept.Sublist s.members ∧
    (∀ m ∈ s.members, m ∈ kept ∨ m.2 = .null) ∧ ∀ m ∈ others, m.1 ∉ names

theorem mem_standard {m : String × Json} (h : m ∈ s.members) (null : m.2 = .null) :
    m ∈ standard.members := by
  have none {text? : Option String} (h : textOrNull text? = .null) : text? = none :=
    textOrNull_inj.mp h
  simp only [members, List.mem_cons, List.not_mem_nil, or_false] at h ⊢
  obtain rfl | rfl | rfl := h
  · exact .inl (by rw [none null]; rfl)
  · contradiction
  · exact .inr (.inr (by rw [none null]; rfl))

theorem filter_members {m : String × Json} (h : m ∈ s.members) :
    s.members.filter (fun n => n.1 = m.1) = [m] := by
  simp only [members, List.mem_cons, List.not_mem_nil, or_false] at h
  obtain rfl | rfl | rfl := h
  all_goals simp [members]

theorem Restates.gives (h : Restates s given) : Gives given s := by
  obtain ⟨kept, others, same, sub, whole, foreign⟩ := h
  intro m mem
  have noOther : others.filter (fun n => n.1 = m.1) = [] := by
    apply List.filter_eq_nil_iff.mpr
    intro n hn name
    exact foreign n hn (of_decide_eq_true name ▸ mem_names m mem)
  have found := same.filter fun n => n.1 = m.1
  rw [List.filter_append, noOther, List.append_nil] at found
  have one := sub.filter fun n => n.1 = m.1
  rw [filter_members mem] at one
  obtain none | ⟨more, all, none⟩ := List.sublist_cons_iff.mp one
  · have none := List.sublist_nil.mp none
    rw [none] at found
    have absent := List.filter_eq_nil_iff.mp found.eq_nil
    refine .inr ⟨fun n hn name => absent n hn (decide_eq_true name), mem_standard mem ?_⟩
    refine (whole m mem).resolve_left fun hm => ?_
    exact List.filter_eq_nil_iff.mp none m hm (decide_eq_true rfl)
  · rw [all, List.sublist_nil.mp none] at found
    exact .inl (List.perm_singleton.mp found)

theorem restates_members (s : Settings) : Restates s s.members :=
  ⟨s.members, [], by simp, .refl _, fun _ mem => .inl mem, by simp⟩

theorem render_eq (s : Settings) : s.render.toList = Json.print (.object s.members) := by
  have text (text? : Option String) : optionalText text? = Json.print (textOrNull text?) := by
    cases text? <;> simp [optionalText, textOrNull, Json.print]
  simp [render, members, Json.print, Json.printMembers, text]

theorem startsObject_render (s : Settings) : StartsObject s.render.toList s.members [] := by
  have valued : ∀ m ∈ s.members, ∀ rest, Valued 0 m.1 (Json.print m.2 ++ rest) m.2 rest :=
    fun m mem rest => Json.scalar_print (rulesOf m.1) (flat_members m mem) rest
  obtain ⟨t, printed, listed⟩ := Json.listed_print Json.strict (Valued 0) valued []
  rw [List.append_nil, ← render_eq] at printed
  rw [printed]
  exact ⟨t, 0, .refl _, listed⟩

end Saved

section File

/-- The members give no settings: a setting is given twice, or as what it cannot be. -/
def Spoils (given : List (String × Json)) : Prop :=
  (∃ name ∈ names, 2 ≤ (given.filter fun m => m.1 = name).length) ∨
    ∃ m ∈ given, m.1 ∈ names ∧ ∀ s : Settings, m ∉ s.members

theorem Gives.not_spoils (h : Gives given s) : ¬ Spoils given := by
  rintro (⟨name, known, twice⟩ | ⟨m, mem, known, unfit⟩)
  · obtain ⟨m, hm, rfl⟩ := exists_mem_of_name (s := s) known
    obtain found | ⟨absent, -⟩ := h m hm
    · rw [found] at twice
      contradiction
    · have found : given.filter (fun n => n.1 = m.1) = [] := by simpa using absent
      rw [found] at twice
      contradiction
  · exact unfit s (h.mem mem known)

def file (text : List Char) : File := .content (Text.utf8 text)

theorem load_of_denotes (h : Denotes text s) : load (file text) = ⟨s, false⟩ := by
  simp only [load, file, Text.ofUtf8?_utf8, parse?_eq_some_iff.mpr h]

theorem load_of_denotes_nothing (h : ∀ s, ¬ Denotes text s) :
    load (file text) = ⟨standard, true⟩ := by
  have none : parse? text = none :=
    Option.eq_none_iff_forall_ne_some.mpr fun s hs => h s (parse?_eq_some_iff.mp hs)
  simp only [load, file, Text.ofUtf8?_utf8, none]

theorem StartsObject.gives (h : StartsObject text given rest) (denotes : Denotes text s) :
    Gap rest [] ∧ Gives given s := by
  obtain ⟨given', rest', start, blank, gives⟩ | ⟨_, _, ⟨_, _, start', _⟩, _, _⟩ := denotes
  · obtain ⟨rfl, rfl⟩ := h.unique start
    exact ⟨blank, gives⟩
  · obtain ⟨t, _, start, _⟩ := h
    have opened := (Json.gap_cons_iff (by decide)).mp start'
    rw [(Json.gap_cons_iff (by decide)).mp start] at opened
    exact absurd (List.cons.inj opened).1 (by decide)

theorem load_content (bytes : List UInt8) :
    (∃ text s, Text.ofUtf8? bytes = some text ∧ Denotes text s ∧
        load (.content bytes) = ⟨s, false⟩) ∨
      (∀ text s, Text.ofUtf8? bytes = some text → ¬ Denotes text s) ∧
        (load (.content bytes)).settings = standard := by
  cases read : Text.ofUtf8? bytes with
  | none => exact .inr ⟨by simp, by simp only [load, read]⟩
  | some text =>
    cases parsed : parse? text with
    | none =>
      refine .inr ⟨fun other s same denotes => ?_, by simp only [load, read, parsed]⟩
      cases same
      rw [parse?_eq_some_iff.mpr denotes] at parsed
      contradiction
    | some s =>
      have denotes := parse?_eq_some_iff.mp parsed
      exact .inl ⟨text, s, rfl, denotes, by simp only [load, read, parsed]⟩

/-- Saved settings are loaded again, also when their object is written in another way or as an
array. Of any other content nothing is used, even if it starts with an object that has some of the
settings. -/
theorem load_all_or_nothing :
    (∀ s : Settings, load (file s.render.toList) = ⟨s, false⟩) ∧
    (∀ s text given rest, StartsObject text given rest → Gap rest [] → Restates s given →
      load (file text) = ⟨s, false⟩) ∧
    (∀ s text rest, StartsArray text s.values rest → Gap rest [] →
      load (file text) = ⟨s, false⟩) ∧
    (∀ bytes, (∃ text s, Text.ofUtf8? bytes = some text ∧ Denotes text s ∧
        load (.content bytes) = ⟨s, false⟩) ∨
      (∀ text s, Text.ofUtf8? bytes = some text → ¬ Denotes text s) ∧
        (load (.content bytes)).settings = standard) ∧
    ∀ text given rest, StartsObject text given rest → Spoils given ∨ ¬ Gap rest [] →
      load (file text) = ⟨standard, true⟩ := by
  refine ⟨?saved, ?members, ?items, load_content, ?spoilt⟩
  case saved =>
    intro s
    have gives := (restates_members s).gives
    exact load_of_denotes (.inl ⟨_, [], startsObject_render s, .refl [], gives⟩)
  case members =>
    intro s text given rest start blank restates
    exact load_of_denotes (.inl ⟨given, rest, start, blank, restates.gives⟩)
  case items =>
    intro s text rest start blank
    have gives : GivesItems s.values s := by simp [GivesItems, values, members]
    exact load_of_denotes (.inr ⟨s.values, rest, start, blank, gives⟩)
  case spoilt =>
    intro text given rest start spoilt
    apply load_of_denotes_nothing
    intro s denotes
    obtain ⟨blank, gives⟩ := start.gives denotes
    exact spoilt.elim gives.not_spoils (absurd blank)

end File

end CloudLookup.Settings
