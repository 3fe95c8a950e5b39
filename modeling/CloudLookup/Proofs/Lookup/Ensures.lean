import CloudLookup.Proofs.Lookup.Record
import CloudLookup.Resolve

/-! What a lookup ensures of its value, for what can be relied on in the answers. -/
namespace CloudLookup.Lookup

/-- With answers that can be relied on, the value of the lookup is as ensured, if there is one. -/
inductive Ensures (answered : Question → Json → Prop) (ensured : α → Prop) : Lookup ε α → Prop where
  | ok {value : α} (h : ensured value) : Ensures answered ensured (done (.ok value))
  | error (e : ε) : Ensures answered ensured (done (.error e))
  | note {line : LogLine} {rest : Lookup ε α} (h : Ensures answered ensured rest) :
    Ensures answered ensured (note line rest)
  | ask {q : Question} {next : Except Failure Json → Lookup ε α}
    (failed : ∀ failure, Ensures answered ensured (next (.error failure)))
    (goesOn : ∀ answer, answered q answer → Ensures answered ensured (next (.ok answer))) :
    Ensures answered ensured (ask q next)

namespace Ensures

variable {answered : Question → Json → Prop} {ensured : Json → Prop}

theorem bind {ensured : α → Prop} {ensured' : β → Prop} {l : Lookup ε α} {f : α → Lookup ε β}
    (hl : Ensures answered ensured l)
    (hf : ∀ value, ensured value → Ensures answered ensured' (f value)) :
    Ensures answered ensured' (l >>= f) := by
  induction hl with
  | ok h => exact hf _ h
  | error e => exact .error e
  | note _ ih => exact .note ih
  | ask _ _ failed goesOn => exact .ask failed goesOn

theorem anything (l : Lookup ε α) : Ensures answered (fun _ => True) l := by
  induction l with
  | done outcome =>
    cases outcome with
    | ok value => exact .ok trivial
    | error e => exact .error e
  | note line rest ih => exact .note ih
  | ask q next ih => exact .ask (fun failure => ih (.error failure)) fun answer _ => ih (.ok answer)

theorem describe (region : Option String) (call : Call) :
    Ensures answered (answered ⟨call, region⟩) (describe region call) :=
  .ask (fun _ => .error _) fun _ h => .ok h

theorem orNotFound {record : Option Json} (h : ∀ value, record = some value → ensured value)
    (what key : String) : Ensures answered ensured (orNotFound what key record) := by
  cases record with
  | none => exact .error _
  | some value => exact .ok (h value rfl)

theorem onlyInstance {records : List Json} (h : ∀ value ∈ records, ensured value) (key : String) :
    Ensures answered ensured (onlyInstance key records) := by
  match records with
  | [] => exact .error _
  | [record] => exact .ok (h record List.mem_cons_self)
  | _ :: _ :: _ => exact .error _

theorem once {text : String} {region : Option String} {call : Call} {conclude : Json → RecordLookup}
    (h : ∀ answer, answered ⟨call, region⟩ answer → Ensures answered ensured (conclude answer)) :
    Ensures answered ensured (do
      Lookup.debug text
      let answer ← Lookup.describe region call
      conclude answer) :=
  (anything (Lookup.debug text)).bind fun _ _ => (describe region call).bind h

theorem network (region : Option String) (key : String)
    (first : ∀ list q answer value, q.call.api = .ec2 → answered q answer →
      first? list answer = some value → ensured value) :
    Ensures answered ensured (network region key) := by
  have found {list : String} {q : Question} (hq : q.call.api = .ec2) {answer : Json}
      (h : answered q answer) (what name : String) :
      Ensures answered ensured (Lookup.orNotFound what name (first? list answer)) :=
    orNotFound (fun value hv => first list q answer value hq h hv) what name
  unfold Lookup.network
  dsimp only
  split
  · rename_i find hf
    split
    · exact .error _
    · obtain ⟨-, rfl⟩ | ⟨-, rfl⟩ | ⟨-, rfl⟩ := networkKind?_eq_some hf
      · exact once fun _ h => found rfl h _ _
      · exact once fun _ h => found rfl h _ _
      · refine (anything _).bind fun names _ => (anything _).bind fun _ _ => ?_
        refine (anything (vpc region names.1)).bind fun record _ => ?_
        refine (anything (vpcId names.1 record)).bind fun id _ => ?_
        exact (describe _ _).bind fun _ h => found rfl h _ _
  · exact .error _

end Ensures

theorem Ensures.run {answered : Question → Json → Prop} {ensured : α → Prop} {provider : Provider σ}
    (reliable : ∀ state q answer, (provider.answer state q).outcome = .ok answer →
      answered q answer)
    {l : Lookup ε α} (h : l.Ensures answered ensured) {state : σ} {value : α}
    (ended : (l.run provider state).outcome = .ok value) : ensured value := by
  induction h generalizing state with
  | ok h => exact Except.ok.inj ended ▸ h
  | error e => contradiction
  | note _ ih => exact ih ended
  | @ask q next _ _ failed goesOn =>
    simp only [Lookup.run] at ended
    cases ho : (provider.answer state q).outcome with
    | error failure => exact failed failure (by rwa [ho] at ended)
    | ok answer => exact goesOn answer (reliable state q answer ho) (by rwa [ho] at ended)

end CloudLookup.Lookup
