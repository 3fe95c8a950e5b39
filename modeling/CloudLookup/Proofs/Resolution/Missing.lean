import CloudLookup.Proofs.Lookup.Origin
import CloudLookup.Proofs.Record.Candidates

/-! Resolutions that fail for want of a property. The record was found then, and the error names its
direct children: the property is none of them, and each of them is a property of the record. -/
namespace CloudLookup

open Json (Throughout)

/-- A provider whose answers are regular at every depth. -/
structure OrderedProvider (σ : Type) extends Provider σ where
  regular : ∀ state q value, (answer state q).outcome = .ok value → Throughout Json.Regular value

namespace Lookup

theorem Sought.regular {provider : OrderedProvider σ} {record : Json}
    (h : Sought provider.toProvider (.ok record)) : record.Regular := by
  cases h with
  | found answered part => exact provider.regular _ _ _ answered _ part

theorem Sought.ne_extraction {provider : Provider σ} {reference path : String}
    {names : List String} :
    ¬ Sought provider (.error (.extraction reference path names)) := by
  rintro (_ | h)
  exact h reference path names rfl

end Lookup

section

variable {provider : Provider σ} {state : σ} {reference text path : String} {region : Option String}
  {strict : Bool} {names : List String}

theorem property_error {record : Json} {e : ResolveError}
    (h : property reference path record = .error e) :
    Record.extract record path = none ∧
      e = .extraction reference path (Record.candidates record) := by
  unfold property at h
  split at h
  · contradiction
  · rename_i missing
    exact ⟨missing, (Except.error.inj h).symm⟩

theorem record_of_extraction
    (failed : ((resolve reference region strict).run provider state).outcome =
      .error (.extraction text path names)) :
    ∃ r record, Reference.parse reference = .ok r ∧
      ((r.find (Region.given? region)).run provider state).outcome = .ok record ∧
      Record.extract record path = none ∧ text = reference ∧ path = r.property ∧
      names = Record.candidates record := by
  cases hp : Reference.parse reference with
  | error e =>
    rw [run_resolve_of_error hp] at failed
    obtain rfl := Except.error.inj failed
    obtain same | ⟨rest, same⟩ := Reference.parse_error hp <;> contradiction
  | ok r =>
    have sought := Lookup.sought_find provider (Region.given? region) state r
    rw [run_resolve_of_ok hp] at failed
    dsimp only at failed
    cases found : ((r.find (Region.given? region)).run provider state).outcome with
    | error e =>
      rw [found] at failed sought
      simp only [resolved] at failed
      split at failed
      · contradiction
      · obtain rfl := Except.error.inj failed
        exact absurd sought Lookup.Sought.ne_extraction
    | ok record =>
      rw [found] at failed
      simp only [resolved] at failed
      cases hv : property reference r.property record with
      | ok value =>
        rw [hv] at failed
        contradiction
      | error e =>
        rw [hv] at failed
        obtain rfl := Except.error.inj failed
        obtain ⟨missing, same⟩ := property_error hv
        obtain ⟨rfl, rfl, rfl⟩ := ResolveError.extraction.inj same
        exact ⟨r, record, rfl, found, missing, rfl, rfl, rfl⟩

end

/-- The candidates for a path that leads nowhere name the direct children of the record, and those
of a resolution that fails for want of a property do so for the record that it found. -/
theorem candidates_of_missing (provider : OrderedProvider σ) (state : σ) :
    (∀ (record : Json.InOrder) (path : String), Record.extract record.value path = none →
      Record.NameChildren record.value (Record.candidates record.value) ∧
        path ∉ Record.candidates record.value) ∧
    ∀ reference region strict text path names,
      ((resolve reference region strict).run provider.toProvider state).outcome =
        .error (.extraction text path names) →
      ∃ r record, Reference.parse reference = .ok r ∧ path = r.property ∧
        ((r.find (Region.given? region)).run provider.toProvider state).outcome = .ok record ∧
        Record.NameChildren record names ∧ path ∉ names := by
  refine ⟨?_, ?_⟩
  · intro record path missing
    have named := Record.nameChildren_candidates record
    exact ⟨named, named.not_mem missing⟩
  · intro reference region strict text path names failed
    obtain ⟨r, record, hp, found, missing, -, same, rfl⟩ := record_of_extraction failed
    have sought := Lookup.sought_find provider.toProvider (Region.given? region) state r
    rw [found] at sought
    have named := Record.nameChildren_candidates ⟨record, sought.regular⟩
    exact ⟨r, record, hp, same, found, named, named.not_mem missing⟩

def oddStream : Json :=
  .object [("", .null), ("a.b", .bool true), ("a[0", .array [.null])]

theorem regular_oddStream : Throughout Json.Regular oddStream := by
  have plain {value : Json} (h : value = .null ∨ value = .bool true) :
      Throughout Json.Regular value := by
    obtain rfl | rfl := h <;> rintro part ⟨⟩ <;> trivial
  have list : Throughout Json.Regular (.array [.null]) :=
    .array (by decide : [Json.null].length ≤ 0x10000000000000000)
      (by simpa using plain (.inl rfl))
  have ordered : Json.Regular oddStream := by
    show List.Pairwise _ _
    decide
  exact .object ordered (by simpa using ⟨plain (.inl rfl), plain (.inr rfl), list⟩)

def oddProvider : OrderedProvider Unit where
  toProvider := Provider.fixed fun _ => .ok (.single "StreamDescription" oddStream)
  regular := by
    intro state q value answered
    obtain rfl := Except.ok.inj answered
    exact .object (List.pairwise_singleton _ _) (by simpa using regular_oddStream)

theorem candidates_of_stream :
    let run := (resolve "aws:kinesis:events:a.c" none false).run oddProvider.toProvider ()
    let names := ["", "a.b", "a[0"]
    Record.extract oddStream "a.c" = none ∧ Record.candidates oddStream = names ∧
      Record.NameChildren oddStream (Record.candidates oddStream) ∧
      run.outcome = .error (.extraction "aws:kinesis:events:a.c" "a.c" names) ∧ "a.c" ∉ names := by
  intro run names
  have missing : Record.extract oddStream "a.c" = none := by rfl
  have outcome : run.outcome = .error (.extraction "aws:kinesis:events:a.c" "a.c" names) := by rfl
  obtain ⟨direct, resolved⟩ := candidates_of_missing oddProvider ()
  obtain ⟨named, -⟩ := direct ⟨oddStream, regular_oddStream.here⟩ "a.c" missing
  obtain ⟨-, -, -, -, -, -, unnamed⟩ := resolved _ _ _ _ _ _ outcome
  exact ⟨missing, rfl, named, outcome, unnamed⟩

end CloudLookup
