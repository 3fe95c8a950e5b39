import CloudLookup.Proofs.Except
import CloudLookup.Proofs.Text.Trim
import CloudLookup.Url.Parser

/-! Addresses that were read. On the web each of them has a path of segments. -/
namespace CloudLookup

namespace Url

def isOuter (c : Char) : Bool := c ≤ ' '

theorem clean_of_solid {s : List Char} (h : Text.Solid isOuter s) :
    clean s = s.filter fun c => !(c = '\t' || c = '\n' || c = '\r') := by
  change (Text.trimOf isOuter s).filter _ = _
  rw [h.trimOf_eq]

theorem segments_of_readFile {scheme s : List Char} {u : Url} (h : readFile scheme s = .ok u) :
    ∃ parts, u.path = .segments parts := by
  unfold readFile at h
  dsimp only at h
  split at h
  · obtain rfl := Except.ok.inj h
    exact ⟨_, rfl⟩
  · split at h
    · obtain rfl := Except.ok.inj h
      exact ⟨_, rfl⟩
    · obtain ⟨host, -, h⟩ := eq_ok_of_bind h
      obtain rfl := Except.ok.inj h
      exact ⟨_, rfl⟩

theorem segments_of_readOther {scheme s : List Char} {u : Url} (h : readOther scheme s = .ok u) :
    (∃ parts, u.path = .segments parts) ∨ u.scheme = scheme := by
  unfold readOther at h
  split at h
  · obtain ⟨⟨authority, rest⟩, -, h⟩ := eq_ok_of_bind h
    obtain rfl := Except.ok.inj h
    exact .inl ⟨_, rfl⟩
  · dsimp only at h
    split at h
    · obtain rfl := Except.ok.inj h
      exact .inl ⟨_, rfl⟩
    · obtain rfl := Except.ok.inj h
      exact .inr rfl

theorem segments_of_parse {s : List Char} {u : Url} (h : parse s = .ok u)
    (web : kindOf u.scheme = .web) : ∃ parts, u.path = .segments parts := by
  unfold parse at h
  split at h
  · contradiction
  · split at h
    · obtain ⟨⟨authority, rest⟩, -, rfl⟩ := eq_ok_of_map h
      exact ⟨_, rfl⟩
    · exact segments_of_readFile h
    · rename_i other
      obtain path | rfl := segments_of_readOther h
      · exact path
      · rw [other] at web
        contradiction

end Url

end CloudLookup
