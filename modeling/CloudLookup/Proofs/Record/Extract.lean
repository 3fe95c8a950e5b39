import CloudLookup.Proofs.Json.Parts
import CloudLookup.Record.Extract

/-! Values at paths. A path without dots and brackets is one name, and it leads to the member of
that name unless it counts as a position. -/
namespace CloudLookup.Record

theorem plainSteps_append {s : List Char} (dots : '.' ∉ s) (brackets : '[' ∉ s)
    (name rest : List Char) : plainSteps name (s ++ rest) = plainSteps (s.reverse ++ name) rest := by
  induction s generalizing name with
  | nil => rfl
  | cons c s ih =>
    obtain ⟨dot, dots⟩ := not_or.mp (mt List.mem_cons.mpr dots)
    obtain ⟨bracket, brackets⟩ := not_or.mp (mt List.mem_cons.mpr brackets)
    rw [List.cons_append, plainSteps, if_neg (Ne.symm dot), if_neg (Ne.symm bracket),
      ih dots brackets, List.reverse_cons, List.append_assoc, List.singleton_append]

theorem plainStep_reverse {name : String} (present : name ≠ "") :
    plainStep name.toList.reverse = [.key name] := by
  have named : ¬ name.toList.reverse.isEmpty := by
    rwa [List.isEmpty_iff, List.reverse_eq_nil_iff, String.toList_eq_nil_iff]
  rw [plainStep, if_neg named, List.reverse_reverse, String.ofList_toList]

theorem steps_of_plain {path : String} (dots : '.' ∉ path.toList) (brackets : '[' ∉ path.toList)
    (present : path ≠ "") : steps path.toList = [.key path] := by
  have all : plainSteps [] (path.toList ++ []) = _ := plainSteps_append dots brackets [] []
  rw [List.append_nil, List.append_nil, plainSteps, plainStep_reverse present] at all
  exact all

theorem extract_of_plain {path : String} (dots : '.' ∉ path.toList) (brackets : '[' ∉ path.toList)
    (present : path ≠ "") (named : Text.unsigned? path.toList = none) (record : Json) :
    extract record path = record.member? path := by
  unfold extract
  rw [steps_of_plain dots brackets present]
  cases record with
  | object members =>
    cases hm : (Json.object members).member? path with
    | some value => rfl
    | none =>
      change (Json.Members.get? members path).bind _ = none
      rw [show Json.Members.get? members path = none from hm]
      rfl
  | array items =>
    change ((Text.unsigned? path.toList).bind fun n => items[n]?).bind _ = none
    rw [named]
    rfl
  | _ => rfl

theorem occurs_of_follow {step : Step} {value part : Json} (h : follow step value = some part) :
    Json.Occurs part value := by
  unfold follow at h
  split at h
  · exact .item (List.mem_of_getElem? h) .here
  · exact .of_get? h
  · exact .of_get? h
  · obtain ⟨n, -, found⟩ := Option.bind_eq_some_iff.mp h
    exact .item (List.mem_of_getElem? found) .here
  · contradiction

theorem occurs_of_walk {steps : List Step} {value part : Json} (h : walk steps value = some part) :
    Json.Occurs part value := by
  induction steps generalizing value with
  | nil =>
    obtain rfl := Option.some.inj h
    exact .here
  | cons step steps ih =>
    obtain ⟨next, first, rest⟩ := Option.bind_eq_some_iff.mp h
    exact (ih rest).trans (occurs_of_follow first)

theorem occurs_of_extract {record part : Json} {path : String}
    (h : extract record path = some part) : Json.Occurs part record := by
  unfold extract at h
  split at h
  · rename_i member named
    obtain rfl := Option.some.inj h
    exact .of_member? named
  · split at h
    · contradiction
    · exact occurs_of_walk h

end CloudLookup.Record
