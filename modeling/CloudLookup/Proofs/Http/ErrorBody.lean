import CloudLookup.Http.ErrorBody
import CloudLookup.Proofs.Text.Boundary
import CloudLookup.Proofs.Text.Numeral

/-! What is logged of an error's body. It depends on the length of the body and on its first bytes,
up to the last whole character among them. -/
namespace CloudLookup

/-- The longest beginning of a text, in whole characters, that has so many bytes at most. -/
structure IsFront (bytes : Nat) (front s : List Char) : Prop where
  initial : front <+: s
  fits : Text.utf8Length front ≤ bytes
  longest : ∀ other, other <+: s → Text.utf8Length other ≤ bytes → other <+: front

theorem IsFront.unique {bytes : Nat} {front front' s : List Char} (h : IsFront bytes front s)
    (h' : IsFront bytes front' s) : front = front' := by
  have shorter := h'.longest front h.initial h.fits
  have longer := h.longest front' h'.initial h'.fits
  exact shorter.eq_of_length_le longer.length_le

theorem isFront_cut (bytes : Nat) (s : List Char) : IsFront bytes (Text.cut bytes s) s := by
  obtain ⟨stop, -, allowed, -, sliced, -⟩ := Text.exists_cutAt bytes s
  obtain ⟨initial, length⟩ := Text.prefix_of_before? sliced
  exact ⟨initial, length ▸ allowed, fun _ ho fits => Text.prefix_cut ho fits⟩

theorem isFront_self {bytes : Nat} {s : List Char} (h : Text.utf8Length s ≤ bytes) :
    IsFront bytes s s :=
  ⟨List.prefix_refl s, h, fun _ ho _ => ho⟩

/-- Two bodies of one length with the same first bytes of those that may be logged. -/
def AlikeInFront (one two : List Char) : Prop :=
  Text.utf8Length one = Text.utf8Length two ∧ ∃ front, IsFront 200 front one ∧ IsFront 200 front two

theorem loggedBody_eq {one two : List Char} (h : AlikeInFront one two) :
    loggedBody one = loggedBody two := by
  obtain ⟨length, front, ho, ht⟩ := h
  have first : Text.cut maxLoggedBytes one = front := (isFront_cut 200 one).unique ho
  have second : Text.cut maxLoggedBytes two = front := (isFront_cut 200 two).unique ht
  unfold loggedBody
  dsimp only
  rw [first, second, ← length]
  split
  · rename_i small
    rw [(isFront_self small).unique ho, (isFront_self (length ▸ small)).unique ht]
  · rfl

section FirstBytes

variable {one two front : List Char} {bytes : Nat}

theorem prefix_of_take_eq (same : (Text.utf8 one).take bytes = (Text.utf8 two).take bytes)
    (initial : front <+: one) (fits : Text.utf8Length front ≤ bytes) : front <+: two := by
  rw [← Text.utf8_prefix_iff] at initial ⊢
  have first : Text.utf8 front <+: (Text.utf8 one).take bytes :=
    List.prefix_take_iff.mpr ⟨initial, Text.length_utf8 front ▸ fits⟩
  exact (same ▸ first).trans (List.take_prefix ..)

theorem IsFront.of_take_eq (h : IsFront bytes front one)
    (same : (Text.utf8 one).take bytes = (Text.utf8 two).take bytes) : IsFront bytes front two where
  initial := prefix_of_take_eq same h.initial h.fits
  fits := h.fits
  longest other ho fits := h.longest other (prefix_of_take_eq same.symm ho fits) fits

theorem loggedBody_eq_of_take_eq (length : Text.utf8Length one = Text.utf8Length two)
    (same : (Text.utf8 one).take 200 = (Text.utf8 two).take 200) :
    loggedBody one = loggedBody two :=
  loggedBody_eq ⟨length, Text.cut 200 one, isFront_cut 200 one,
    (isFront_cut 200 one).of_take_eq same⟩

end FirstBytes

section Plain

variable (body : List Char)

theorem isPlain_of_isDigit {c : Char} (h : c.isDigit) : isPlain c := by
  rw [Char.isDigit, Bool.and_eq_true, decide_eq_true_eq, decide_eq_true_eq] at h
  obtain ⟨low, high⟩ := h
  have first : ' ' ≤ c := UInt32.le_trans (by decide) low
  have last : c ≤ '~' := UInt32.le_trans high (by decide)
  rw [isPlain, decide_eq_true first, decide_eq_true last]
  rfl

theorem filter_cutNote (length : Nat) : (cutNote length).filter isPlain = cutNote length := by
  have before : "... [truncated, ".toList.all isPlain = true := by decide +kernel
  have after : " bytes total]".toList.all isPlain = true := by decide +kernel
  rw [List.filter_eq_self]
  intro c hc
  unfold cutNote at hc
  obtain hc | hc := List.mem_append.mp hc
  · obtain hc | hc := List.mem_append.mp hc
    · exact List.all_eq_true.mp before c hc
    · exact isPlain_of_isDigit (Text.isDigit_of_mem_decimal hc)
  · exact List.all_eq_true.mp after c hc

theorem loggedBody_cases :
    loggedBody body =
      if Text.utf8Length body ≤ 200 then body.filter isPlain
      else (Text.cut 200 body).filter isPlain ++ cutNote (Text.utf8Length body) := by
  unfold loggedBody
  dsimp only
  rw [maxLoggedBytes]
  split
  · rfl
  · rw [List.filter_append, filter_cutNote]

theorem plain_of_mem_loggedBody {c : Char} (h : c ∈ loggedBody body) : ' ' ≤ c ∧ c ≤ '~' := by
  obtain ⟨-, plain⟩ := List.mem_filter.mp h
  rwa [isPlain, Bool.and_eq_true, decide_eq_true_eq, decide_eq_true_eq] at plain

theorem utf8Length_filter_le (p : Char → Bool) (s : List Char) :
    Text.utf8Length (s.filter p) ≤ Text.utf8Length s := by
  induction s with
  | nil => exact Nat.le_refl 0
  | cons c s ih =>
    rw [List.filter_cons]
    split
    · exact Nat.add_le_add_left ih _
    · exact Nat.le_trans ih (Nat.le_add_left ..)

theorem utf8Length_loggedBody_le :
    Text.utf8Length (loggedBody body) ≤
      200 + Text.utf8Length (cutNote (Text.utf8Length body)) := by
  rw [loggedBody_cases]
  split
  · have shorter := utf8Length_filter_le isPlain body
    omega
  · have shorter := utf8Length_filter_le isPlain (Text.cut 200 body)
    have fits := (isFront_cut 200 body).fits
    rw [Text.utf8Length_append]
    omega

end Plain

/-- Every body is logged: the search for the place of the cut ends at a boundary, and what is shown
is plain, short and known from the length of the body and its first bytes. -/
theorem loggedBody_bounded (body : List Char) :
    (∃ stop, Text.CutAt 200 body stop (Text.cut 200 body)) ∧
    IsFront 200 (Text.cut 200 body) body ∧
    loggedBody body =
      (if Text.utf8Length body ≤ 200 then body.filter isPlain
      else (Text.cut 200 body).filter isPlain ++ cutNote (Text.utf8Length body)) ∧
    (∀ c ∈ loggedBody body, ' ' ≤ c ∧ c ≤ '~') ∧
    Text.utf8Length (loggedBody body) ≤
      200 + Text.utf8Length (cutNote (Text.utf8Length body)) ∧
    ∀ other, Text.utf8Length other = Text.utf8Length body →
      (Text.utf8 other).take 200 = (Text.utf8 body).take 200 →
      loggedBody other = loggedBody body :=
  ⟨Text.exists_cutAt 200 body, isFront_cut 200 body, loggedBody_cases body,
    fun _ => plain_of_mem_loggedBody body, utf8Length_loggedBody_le body,
    fun _ => loggedBody_eq_of_take_eq⟩

end CloudLookup
