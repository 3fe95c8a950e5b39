import CloudLookup.Proofs.Url.Domain
import CloudLookup.Proofs.Url.Parser
import CloudLookup.Proofs.Url.Percent

/-! Hosts of the web's schemes whose first and last parts are plain. -/
namespace CloudLookup.Url

open Text (fields)

theorem percentDecode_point (s : List Char) :
    percentDecode ('.' :: s) = Text.utf8 ['.'] ++ percentDecode s :=
  percentDecode_cons (by decide) s

theorem decoded_between {front back s name : List Char} (hf : '%' ∉ front) (hb : '%' ∉ back)
    (h : Text.ofUtf8? (percentDecode (front ++ '.' :: (s ++ '.' :: back))) = some name) :
    ∃ t, name = front ++ '.' :: (t ++ '.' :: back) := by
  have bytes : percentDecode (front ++ '.' :: (s ++ '.' :: back)) =
      Text.utf8 (front ++ ['.']) ++ (percentDecode s ++ 0x2E :: Text.utf8 back) := by
    rw [percentDecode_append, percentDecode_point, percentDecode_append, percentDecode_point,
      percentDecode_plain hf, percentDecode_plain hb, Text.utf8_append, List.append_assoc]
    rfl
  rw [bytes, Text.ofUtf8?_utf8_append] at h
  obtain ⟨rest, hr, rfl⟩ := Option.map_eq_some_iff.mp h
  obtain ⟨t, last, -, hl, rfl⟩ := Text.ofUtf8?_append (by decide) hr
  have ending : Text.ofUtf8? (0x2E :: Text.utf8 back) = some ('.' :: back) :=
    Text.ofUtf8?_utf8 ('.' :: back)
  obtain rfl := Option.some.inj (ending.symm.trans hl)
  exact ⟨t, by simp⟩

theorem endsInNumber_append {back : List Char} (hb : (fields '.' back).getLast? ≠ some [])
    (s : List Char) : endsInNumber (s ++ '.' :: back) = endsInNumber back := by
  have last : (fields '.' (s ++ '.' :: back)).getLast? = (fields '.' back).getLast? := by
    rw [Text.fields_append_fields, List.getLast?_append,
      List.getLast?_eq_some_getLast (Text.fields_ne_nil back), Option.some_or]
  unfold endsInNumber hostParts
  dsimp only
  rw [last, if_neg hb, if_neg hb, last]

namespace Host

variable {front back s : List Char} {host : Host}

theorem parse_between (hf : Domain.IsPlainName front) (hne : front ≠ [])
    (hb : Domain.IsPlainName back) (hl : (fields '.' back).getLast? ≠ some [])
    (hn : endsInNumber back = false) (h : parse (front ++ '.' :: (s ++ '.' :: back)) = .ok host) :
    ∃ t, host = .domain (front ++ '.' :: (t ++ '.' :: back)) := by
  obtain ⟨c, rest, hc⟩ := List.exists_cons_of_ne_nil hne
  unfold parse at h
  split at h
  · rename_i bracket
    rw [hc] at bracket
    have plain := hf.plain c (by rw [hc]; exact List.mem_cons_self)
    rw [(List.cons.inj bracket).1] at plain
    contradiction
  · split at h
    · contradiction
    · contradiction
    · rename_i name hname
      obtain ⟨decoded, hd, ha⟩ := Option.bind_eq_some_iff.mp hname
      obtain ⟨t, rfl⟩ := decoded_between (hf.not_mem rfl) (hb.not_mem rfl) hd
      obtain ⟨t, rfl⟩ := Domain.toAscii?_between hf hb ha
      have noNumber : endsInNumber (front ++ '.' :: (t ++ '.' :: back)) = false := by
        have h := endsInNumber_append hl (front ++ '.' :: t)
        rw [List.append_assoc, List.cons_append] at h
        rw [h, hn]
      rw [noNumber] at h
      exact ⟨t, (Except.ok.inj h).symm⟩

end Host

end CloudLookup.Url
