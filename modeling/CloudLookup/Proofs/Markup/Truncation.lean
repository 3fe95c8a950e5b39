import CloudLookup.Proofs.Markup.Reads
import CloudLookup.Proofs.Markup.Token

/-! Documents that are cut off. A token is read alike whatever follows it, and so is a document: its
root ends at one place, nothing before that place is a document and nothing after it counts. -/
namespace CloudLookup.Markup

theorem nextToken_append {s rest : List Char} {token : Token}
    (h : nextToken s = some (.ok (token, rest))) (ended : rest = [] → ∀ raw, token ≠ .text raw)
    (more : List Char) : nextToken (s ++ more) = some (.ok (token, rest ++ more)) := by
  obtain ⟨part, rfl⟩ := suffix_of_nextToken h
  rw [List.append_assoc]
  by_cases text : ∃ raw, token = .text raw
  · obtain ⟨raw, rfl⟩ := text
    obtain rfl | ⟨t, rfl⟩ := rest_of_text h
    · exact absurd rfl (ended rfl raw)
    · exact nextToken_replace_text h rfl (List.forall_mem_nil _) (t ++ more)
  · exact nextToken_replace h (fun raw ht => text ⟨raw, ht⟩) (rest ++ more)

section Document

variable {shapes : Shapes} {names : List (List Char)} {elements : List Element}
  {s : List Char} {root : Root}

theorem Reads.append (h : Reads shapes root names elements s) (more : List Char) :
    Reads shapes root names elements (s ++ more) := by
  induction h with
  | ended front fits led =>
    refine .ended (nextToken_append front ?_ more) fits led
    rintro empty raw rfl
    exact (Reads.ended front fits led).ne_nil_of_text front empty
  | onward front fits led further ih =>
    exact .onward (nextToken_append front (fun empty => absurd empty further.ne_nil) more) fits led
      ih

theorem dropMark_append (h : s ≠ []) (more : List Char) :
    dropMark (s ++ more) = dropMark s ++ more := by
  obtain ⟨c, s, rfl⟩ := List.exists_cons_of_ne_nil h
  by_cases hc : c = '\uFEFF'
  · rw [hc]
    rfl
  · simp [dropMark, hc]

theorem read_append {document : List Char} (h : read shapes document = .ok root)
    (more : List Char) : read shapes (document ++ more) = .ok root := by
  have present : document ≠ [] := by
    rintro rfl
    exact (reads_of_readFrom h).ne_nil rfl
  rw [read, dropMark_append present]
  exact ((reads_of_readFrom h).append more).readFrom _

end Document

/-- A text that is a document whatever follows it, while no shorter text is one. -/
structure Completes (shapes : Shapes) (document : List Char) (root : Root) : Prop where
  rest : ∀ rest, read shapes (document ++ rest) = .ok root
  cut : ∀ start, start <+: document → start ≠ document → ∃ e, read shapes start = .error e

/-- A document that is read starts with a complete one: what follows it does not count, and when it
is cut off anywhere, reading fails. -/
theorem read_completes {shapes : Shapes} {document : List Char} {root : Root}
    (h : read shapes document = .ok root) :
    ∃ complete, complete <+: document ∧ Completes shapes complete root := by
  -- The shortest start that is read is complete. It has the same root, since more changes nothing.
  induction hn : document.length using Nat.strongRecOn generalizing document with
  | ind n ih =>
    by_cases shorter : ∃ start root', start <+: document ∧ start ≠ document ∧
        read shapes start = .ok root'
    · obtain ⟨start, root', within, proper, hs⟩ := shorter
      obtain ⟨rest, rfl⟩ := within
      obtain rfl : root' = root := Except.ok.inj ((read_append hs rest).symm.trans h)
      have less : start.length < n := by
        have left := List.length_pos_iff.mpr (show rest ≠ [] by simpa using proper)
        rw [← hn, List.length_append]
        omega
      obtain ⟨complete, inStart, hc⟩ := ih start.length less hs rfl
      exact ⟨complete, inStart.trans (List.prefix_append start rest), hc⟩
    · refine ⟨document, List.prefix_refl document, read_append h, ?_⟩
      intro start within proper
      cases hs : read shapes start with
      | error e => exact ⟨e, rfl⟩
      | ok root' => exact absurd ⟨start, root', within, proper, hs⟩ shorter

theorem read_completes_before_rest :
    read ⟨[], ["n"], []⟩ "<r a='>'><!-- < --><n><![CDATA[1]]></n></r> </r><".toList =
        .ok ⟨"r", .object [("n", .number (.integer 1))]⟩ ∧
      ∃ complete, complete <+: "<r a='>'><!-- < --><n><![CDATA[1]]></n></r> </r><".toList ∧
        Completes ⟨[], ["n"], []⟩ complete ⟨"r", .object [("n", .number (.integer 1))]⟩ := by
  have h : read ⟨[], ["n"], []⟩ "<r a='>'><!-- < --><n><![CDATA[1]]></n></r> </r><".toList =
      .ok ⟨"r", .object [("n", .number (.integer 1))]⟩ := by
    iterate 6 refine Eq.trans (readFrom_eq_resume rfl rfl rfl) ?_
    rfl
  exact ⟨h, read_completes h⟩

end CloudLookup.Markup
