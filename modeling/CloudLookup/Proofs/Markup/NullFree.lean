import CloudLookup.Proofs.Json.Parts
import CloudLookup.Proofs.Markup.Grown

/-! Documents have no null. An element without content is an empty object, and any other holds texts
or the values of its children, none of which is lost when several of one name are gathered. -/
namespace CloudLookup.Markup

open Json (NullFree)

theorem nullFree_scalar (shapes : Shapes) (name text : String) :
    NullFree (shapes.scalar name text) := by
  unfold Shapes.scalar
  split
  · split <;> simp
  · split
    · split <;> simp
    · simp

theorem nullFree_addChild {members : Json.Members} {child : String × Json}
    (h : NullFree (.object members)) (hc : NullFree child.2) :
    NullFree (.object (addChild members child)) := by
  unfold addChild
  split
  · rename_i items found
    apply h.insert
    have collected := NullFree.array_iff.mp (h.part (.of_get? found))
    simp only [NullFree.array_iff, List.mem_append, List.mem_singleton]
    rintro value (listed | rfl)
    · exact collected value listed
    · exact hc
  · rename_i first _ found
    apply h.insert
    simp [h.part (.of_get? found), hc]
  · exact h.insert _ hc

def Element.ChildrenNullFree (e : Element) : Prop := ∀ child ∈ e.children, NullFree child.2

theorem Element.nullFree_value {e : Element} (h : e.ChildrenNullFree) (shapes : Shapes) :
    NullFree (e.value shapes) := by
  have inOrder : ∀ child ∈ e.children.reverse, NullFree child.2 :=
    fun child hc => h child (List.mem_reverse.mp hc)
  unfold Element.value
  dsimp only
  split
  · simpa only [NullFree.array_iff, List.forall_mem_map] using inOrder
  · split
    · split
      · simp
      · exact nullFree_scalar shapes _ _
    · exact .foldl nullFree_addChild inOrder (by simp)

theorem Grown.childrenNullFree {shapes : Shapes} {e : Element} (h : Grown shapes e) :
    e.ChildrenNullFree := by
  induction h with
  | start name => exact nofun
  | text _ _ ih => exact ih
  | child _ _ others made => exact List.forall_mem_cons.mpr ⟨Element.nullFree_value made _, others⟩

theorem nullFree_read {shapes : Shapes} {document : List Char} {root : Root}
    (h : read shapes document = .ok root) : root.value.NullFree := by
  obtain ⟨e, grown, rfl⟩ := exists_grown_of_read h
  exact e.nullFree_value grown.childrenNullFree shapes

end CloudLookup.Markup
