import CloudLookup.Proofs.Text.Utf8
import CloudLookup.Text.Boundary

/-! A text is cut at a boundary in its bytes. The boundaries are the lengths of the text's
beginnings, so the cut at the last of them leaves the longest beginning. -/
namespace CloudLookup.Text

theorem prefix_of_before? {stop : Nat} {s front : List Char} (h : before? stop s = some front) :
    front <+: s ∧ utf8Length front = stop := by
  induction s generalizing stop front with
  | nil =>
    cases stop with
    | zero =>
      cases h
      exact ⟨List.prefix_refl [], rfl⟩
    | succ stop => contradiction
  | cons c s ih =>
    cases stop with
    | zero =>
      cases h
      exact ⟨List.nil_prefix, rfl⟩
    | succ stop =>
      rw [before?] at h
      split at h
      · obtain ⟨rest, found, rfl⟩ := Option.map_eq_some_iff.mp h
        obtain ⟨initial, length⟩ := ih found
        refine ⟨List.cons_prefix_cons.mpr ⟨rfl, initial⟩, ?_⟩
        rw [utf8Length, length]
        omega
      · contradiction

theorem before?_append (front rest : List Char) :
    before? (utf8Length front) (front ++ rest) = some front := by
  induction front with
  | nil => cases rest <;> rfl
  | cons c front ih =>
    have positive : 0 < c.utf8Size := c.utf8Size_pos
    have size : utf8Length (c :: front) = c.utf8Size + utf8Length front - 1 + 1 := by
      rw [utf8Length]
      omega
    have after : c.utf8Size + utf8Length front - 1 + 1 - c.utf8Size = utf8Length front := by omega
    rw [size, List.cons_append, before?, if_pos (by omega), after, ih, Option.map_some]

/-- How a text is cut: the search stops at a boundary that is allowed, and the cut is made there. -/
structure CutAt (most : Nat) (s : List Char) (stop : Nat) (front : List Char) : Prop where
  found : boundary? (utf8 s) most = some stop
  allowed : stop ≤ most
  boundary : isBoundary (utf8 s) stop = true
  sliced : before? stop s = some front
  bytes : utf8 front = (utf8 s).take stop

theorem exists_cutAt (most : Nat) (s : List Char) : ∃ stop, CutAt most s stop (cut most s) := by
  obtain ⟨stop, found, allowed, boundary, -⟩ := boundary?_spec (utf8 s) most
  have sliced : before? stop s = some (cut most s) := by
    rw [← cut?_eq, cut?, found, Option.bind_some]
  refine ⟨stop, found, allowed, boundary, sliced, ?_⟩
  obtain ⟨⟨rest, whole⟩, length⟩ := prefix_of_before? sliced
  have bytes : (utf8 (cut most s)).length = stop := by rw [length_utf8, length]
  rw [← List.take_left' bytes, ← utf8_append, whole]

theorem prefix_cut {most : Nat} {s other : List Char} (initial : other <+: s)
    (fits : utf8Length other ≤ most) : other <+: cut most s := by
  obtain ⟨stop, found, -, -, sliced, -⟩ := exists_cutAt most s
  obtain ⟨stop', found', -, -, last⟩ := boundary?_spec (utf8 s) most
  cases found.symm.trans found'
  obtain ⟨taken, length⟩ := prefix_of_before? sliced
  have ends : isBoundary (utf8 s) (utf8Length other) = true := by
    obtain ⟨rest, rfl⟩ := initial
    rw [isBoundary_utf8, before?_append, Option.isSome_some]
  have shorter : (utf8 other).length ≤ (utf8 (cut most s)).length := by
    rw [length_utf8, length_utf8, length]
    exact last _ fits ends
  exact utf8_prefix_iff.mp (List.prefix_of_prefix_length_le (utf8_prefix_iff.mpr initial)
    (utf8_prefix_iff.mpr taken) shorter)

/-! The third character takes the bytes from the fourth to the sixth. -/

example : cut 5 ['a', 'é', '€', 'b'] = ['a', 'é'] := by decide

example : cut 6 ['a', 'é', '€', 'b'] = ['a', 'é', '€'] := by decide

end CloudLookup.Text
