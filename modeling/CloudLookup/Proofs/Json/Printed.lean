import CloudLookup.Proofs.Json.Grammar

/-! Printed objects are in the grammar, and so they are read as what was printed. Their values are
texts, truth values and null, as settings and requests have them. -/
namespace CloudLookup.Json

/-- A text, a truth value or null. -/
def Flat : Json → Prop
  | .null => True
  | .bool _ => True
  | .string _ => True
  | _ => False

theorem Flat.scalar {rules : Rules} {depth : Nat} {s rest : List Char} {v : Json} (flat : Flat v)
    (h : Value rules depth s v rest) : Scalar rules s v rest := by
  cases depth with
  | zero => exact h
  | succ depth =>
    obtain h | h := h
    · exact h
    · cases h
      all_goals exact flat.elim

section Print

variable (rules : Rules)

theorem quoted_print (text rest : List Char) :
    Quoted rules (text.flatMap printChar ++ '"' :: rest) text rest :=
  reads_quoted_iff.mp (reads_quoted rules text rest)

theorem scalar_print {v : Json} (h : Flat v) (rest : List Char) :
    Scalar rules (print v ++ rest) v rest := by
  cases v with
  | null => exact .null
  | bool b =>
    cases b with
    | false => exact .false
    | true => exact .true
  | string text =>
    have quoted := Scalar.string (quoted_print rules text.toList rest)
    rwa [String.ofList_toList, ← quote_append] at quoted
  | number | array | object => exact h.elim

variable (part : String → List Char → Json → List Char → Prop)

theorem member_print {m : String × Json} {rest : List Char}
    (h : part m.1 (print m.2 ++ rest) m.2 rest) :
    Member rules part (quote m.1.toList ++ ':' :: (print m.2 ++ rest)) m rest := by
  rw [← String.ofList_toList (s := m.1)] at h
  have member := Member.mk (quoted_print rules m.1.toList _) (.refl _) (.refl _) h
  rwa [String.ofList_toList, ← quote_append] at member

theorem listed_printMembers {members : Members}
    (h : ∀ m ∈ members, ∀ rest, part m.1 (print m.2 ++ rest) m.2 rest) (rest : List Char) :
    Listed '\x7d' (Member rules part) false (printMembers members ++ rest) members rest := by
  induction members with
  | nil => exact .close (.refl _)
  | cons m members ih =>
    have member :=
      member_print rules part (h m List.mem_cons_self (printMembers members ++ rest))
    have more := ih fun n mem => h n (List.mem_cons_of_mem m mem)
    have listed := Listed.next (.refl _) (.refl _) member more
    simpa only [printMembers, List.append_assoc, List.cons_append] using listed

theorem listed_print {members : Members}
    (h : ∀ m ∈ members, ∀ rest, part m.1 (print m.2 ++ rest) m.2 rest) (rest : List Char) :
    ∃ s, print (.object members) ++ rest = '\x7b' :: s ∧
      Listed '\x7d' (Member rules part) true s members rest := by
  cases members with
  | nil => exact ⟨_, rfl, .close (.refl _)⟩
  | cons m members =>
    have member :=
      member_print rules part (h m List.mem_cons_self (printMembers members ++ rest))
    have more := listed_printMembers rules part
      (fun n mem => h n (List.mem_cons_of_mem m mem)) rest
    refine ⟨_, ?_, .first (.refl _) member more⟩
    simp only [print, List.append_assoc, List.cons_append]

end Print

section Texts

def textMembers (texts : List (String × String)) : Members := texts.map fun p => (p.1, .string p.2)

theorem flat_textMembers (texts : List (String × String)) : ∀ m ∈ textMembers texts, Flat m.2 := by
  intro m mem
  obtain ⟨p, -, rfl⟩ := List.mem_map.mp mem
  trivial

theorem parse_of_value {s rest : List Char} {v : Json} (h : Value strict maxDepth s v rest)
    (blank : Gap rest []) : parse s = .ok v :=
  readAll_eq_ok_iff.mpr ⟨rest, (takes_value strict maxDepth s v rest).mpr ⟨s, .refl s, h⟩, blank⟩

theorem parse_print_texts (p : String × String) (texts : List (String × String)) :
    parse (print (.object (textMembers (p :: texts)))) =
      .ok (.object (Members.ofList (textMembers (p :: texts)))) := by
  have flat := flat_textMembers (p :: texts)
  have values : ∀ m ∈ textMembers (p :: texts), ∀ rest,
      Value strict 126 (print m.2 ++ rest) m.2 rest :=
    fun m mem rest => .inl (scalar_print strict (flat m mem) rest)
  obtain ⟨s, printed, listed⟩ := listed_print strict (fun _ => Value strict 126) values []
  rw [List.append_nil] at printed
  rw [printed]
  exact parse_of_value (.inr (.object listed)) (.refl [])

end Texts

end CloudLookup.Json
