import CloudLookup.Proofs.Json.Parts
import CloudLookup.Proofs.Record.Extract
import CloudLookup.Proofs.Text.ByteOrder
import CloudLookup.Proofs.Text.Numeral

/-! The candidates for a property that is missing. They name the direct children of the record, and
each of them leads to its child when it is taken for a path, whatever points and brackets it has. -/
namespace CloudLookup

/-- The members of an object are in order, and there is a position of 64 bits for each item of an
array. -/
def Json.Regular : Json → Prop
  | object members => Members.Ordered members
  | array items => items.length ≤ 0x10000000000000000
  | _ => True

structure Json.InOrder where
  value : Json
  regular : value.Regular

namespace Record

def children : Json → List (String × Json)
  | .object members => members
  | .array items => items.zipIdx.map fun (item, n) => (String.ofList (Text.decimal n), item)
  | _ => []

/-- The names are those of the direct children of a record, and each of them leads to its child. -/
structure NameChildren (record : Json) (names : List String) : Prop where
  complete : names = (children record).map Prod.fst
  once : names.Nodup
  ordered : ∀ members, record = .object members →
    names.Pairwise fun a b => Text.utf8 a.toList < Text.utf8 b.toList
  leads : ∀ child ∈ children record, extract record child.1 = some child.2

section Children

theorem candidates_eq (record : Json) : candidates record = (children record).map Prod.fst := by
  cases record with
  | object members => rfl
  | array items =>
    have positions : List.range items.length = items.zipIdx.map Prod.snd := by
      rw [List.zipIdx_map_snd, List.range_eq_range']
    rw [candidates, children, positions, List.map_map, List.map_map]
    rfl
  | _ => rfl

theorem nodup_candidates (record : Json.InOrder) : (candidates record.value).Nodup := by
  obtain ⟨record, regular⟩ := record
  cases record with
  | object members =>
    have ordered : Json.Members.Ordered members := regular
    rw [candidates, List.Nodup, List.pairwise_map]
    refine ordered.imp fun less same => ?_
    rw [same] at less
    exact String.lt_irrefl _ less
  | array items =>
    rw [candidates, List.Nodup, List.pairwise_map]
    refine List.nodup_range.imp fun differ same => differ ?_
    have digits := congrArg (fun s => Text.digits? s.toList) same
    simpa only [String.toList_ofList, Text.digits?_decimal, Option.some.injEq] using digits
  | _ => exact List.nodup_nil

theorem steps_decimal (n : Nat) :
    steps (Text.decimal n) = [.key (String.ofList (Text.decimal n))] := by
  have plain {c : Char} (h : c.isDigit = false) : c ∉ (String.ofList (Text.decimal n)).toList := by
    rw [String.toList_ofList]
    exact Text.not_mem_decimal h n
  have present : String.ofList (Text.decimal n) ≠ "" := by
    rw [ne_eq, ← String.toList_eq_nil_iff, String.toList_ofList]
    exact Text.decimal_ne_nil n
  have read := steps_of_plain (plain (by decide)) (plain (by decide)) present
  rwa [String.toList_ofList] at read

theorem extract_child (record : Json.InOrder) {child : String × Json}
    (h : child ∈ children record.value) : extract record.value child.1 = some child.2 := by
  obtain ⟨record, regular⟩ := record
  cases record with
  | object members =>
    have named : (Json.object members).member? child.1 = some child.2 :=
      Json.Members.get?_eq_some_of_mem regular h
    rw [extract, named]
  | array items =>
    obtain ⟨⟨item, n⟩, listed, rfl⟩ := List.mem_map.mp h
    have found : items[n]? = some item := List.mk_mem_zipIdx_iff_getElem?.mp listed
    have bound : n < 0x10000000000000000 :=
      Nat.lt_of_lt_of_le (List.getElem?_eq_some_iff.mp found).1 regular
    have unnamed : (Json.array items).member? (String.ofList (Text.decimal n)) = none := rfl
    rw [extract, unnamed]
    dsimp only
    rw [String.toList_ofList, steps_decimal]
    simp only [walk, follow, String.toList_ofList, Text.unsigned?_decimal bound, Option.bind_some,
      found]
  | _ => contradiction

theorem nameChildren_candidates (record : Json.InOrder) :
    NameChildren record.value (candidates record.value) := by
  refine ⟨candidates_eq record.value, nodup_candidates record, ?_, fun _ => extract_child record⟩
  intro members object
  have ordered : Json.Members.Ordered members := by
    have regular := record.regular
    rwa [object] at regular
  rw [object, candidates, List.pairwise_map]
  exact ordered.imp fun less => Text.utf8_lt (String.lt_iff.mp less)

theorem NameChildren.not_mem {record : Json} {names : List String} {path : String}
    (h : NameChildren record names) (missing : extract record path = none) : path ∉ names := by
  intro listed
  rw [h.complete] at listed
  obtain ⟨child, hc, rfl⟩ := List.mem_map.mp listed
  rw [h.leads child hc] at missing
  contradiction

end Children

end Record

end CloudLookup
