import CloudLookup.Proofs.Text.Cutting
import CloudLookup.Proofs.Url.Host

/-! The authority of an address on the web, up to the character that ends it. A name before an at
sign is kept, and a colon outside brackets is followed by nothing but digits. -/
namespace CloudLookup.Url

def IsInside (s : List Char) : Prop := ∀ c ∈ s, endsAuthority .web c = false

theorem IsInside.of_append {s t : List Char} (h : IsInside (s ++ t)) : IsInside s ∧ IsInside t :=
  List.forall_mem_append.mp h

theorem IsInside.of_plain {s : List Char} (h : ∀ c ∈ s, Domain.isPlain c) : IsInside s := by
  intro c hc
  rw [Bool.eq_false_iff]
  intro he
  simp only [endsAuthority, Kind.isSpecial, Bool.true_and, Bool.or_eq_true, decide_eq_true_eq,
    or_assoc] at he
  have plain := h c hc
  obtain rfl | rfl | rfl | rfl := he
  all_goals contradiction

theorem inside_or (s : List Char) : IsInside s ∨
    ∃ before e after, s = before ++ e :: after ∧ IsInside before ∧ endsAuthority .web e := by
  induction s with
  | nil => exact .inl (by simp [IsInside])
  | cons c s ih =>
    by_cases hc : endsAuthority .web c
    · exact .inr ⟨[], c, s, rfl, by simp [IsInside], hc⟩
    · have hc := Bool.eq_false_iff.mpr hc
      obtain h | ⟨before, e, after, rfl, hb, he⟩ := ih
      · exact .inl (List.forall_mem_cons.mpr ⟨hc, h⟩)
      · exact .inr ⟨c :: before, e, after, rfl, List.forall_mem_cons.mpr ⟨hc, hb⟩, he⟩

section Userinfo

variable {x t : List Char} {e : Char}

theorem takeWhile_inside (hx : IsInside x) (he : endsAuthority .web e) :
    (x ++ e :: t).takeWhile (fun c => !endsAuthority .web c) = x := by
  have inside : ∀ c ∈ x, (!endsAuthority .web c) = true := fun c hc => by rw [hx c hc]; rfl
  rw [List.takeWhile_append_of_pos inside, List.takeWhile_cons_of_neg (by simp [he]),
    List.append_nil]

theorem readUserinfo_plain (hx : IsInside x) (he : endsAuthority .web e) (unnamed : '@' ∉ x) :
    readUserinfo .web (x ++ e :: t) = .ok ([], [], x ++ e :: t) := by
  unfold readUserinfo
  dsimp only
  rw [takeWhile_inside hx he, if_pos]
  simpa using unnamed

theorem readUserinfo_named {first : Char} {username password rest : List Char}
    (hf : inUserinfoSet first = false) (hx : IsInside (first :: x)) (he : endsAuthority .web e)
    (named : '@' ∈ x)
    (h : readUserinfo .web (first :: x ++ e :: t) = .ok (username, password, rest)) :
    username ≠ [] := by
  have different {c : Char} (hc : inUserinfoSet c = true) : first ≠ c := by
    rintro rfl
    rw [hf] at hc
    contradiction
  obtain ⟨before, after, rfl, last⟩ := Text.eq_append_of_mem_last named
  have host : Text.afterLast '@' (first :: (before ++ '@' :: after)) = after :=
    Text.afterLast_append last (first :: before)
  have userinfo : (first :: (before ++ '@' :: after)).take
      ((first :: (before ++ '@' :: after)).length - after.length - 1) = first :: before := by
    have length : (first :: (before ++ '@' :: after)).length - after.length - 1 =
        (first :: before).length := by simp; omega
    rw [length, ← List.cons_append, List.take_left]
  have start : ∃ name, ((Text.splitFirst ':' (first :: before)).getD (first :: before, [])).1 =
      first :: name := by
    rw [Text.splitFirst, if_neg (different (by decide))]
    cases Text.splitFirst ':' before with
    | none => exact ⟨_, rfl⟩
    | some parts => exact ⟨_, rfl⟩
  have found : (first :: (before ++ '@' :: after)).contains '@' = true := by simp
  obtain ⟨name, hn⟩ := start
  unfold readUserinfo at h
  dsimp only at h
  rw [takeWhile_inside hx he, found, host, userinfo, if_neg (by decide), if_neg (by simp)] at h
  obtain ⟨rfl, -⟩ := Prod.mk.inj (Except.ok.inj h)
  rw [hn, percentEncode, List.flatMap_cons, hf]
  exact List.cons_ne_nil _ _

end Userinfo

section Host

variable {x t : List Char} {e : Char}

theorem splitHost_inside (hx : IsInside x) (he : endsAuthority .web e) (inBrackets : Bool) :
    splitHost .web inBrackets (x ++ e :: t) = (x, e :: t) ∨
      ∃ y z, x = y ++ ':' :: z ∧
        splitHost .web inBrackets (x ++ e :: t) = (y, ':' :: (z ++ e :: t)) := by
  induction x generalizing inBrackets with
  | nil =>
    refine .inl ?_
    rw [List.nil_append, splitHost, he, Bool.true_or, if_pos rfl]
  | cons c x ih =>
    obtain ⟨hc, hx⟩ := List.forall_mem_cons.mp hx
    rw [List.cons_append, splitHost, hc, Bool.false_or]
    split
    · rename_i colon
      obtain rfl : c = ':' := by simpa using (Bool.and_eq_true_iff.mp colon).1
      exact .inr ⟨[], x, rfl, rfl⟩
    · dsimp only
      obtain h | ⟨y, z, rfl, h⟩ := ih hx (if c = '[' then true else if c = ']' then false
        else inBrackets)
      · exact .inl (by rw [h])
      · exact .inr ⟨c :: y, z, rfl, by rw [h]⟩

theorem dropWhile_inside {drop : Char → Bool} (he : drop e = false) :
    (x.all drop ∧ (x ++ e :: t).dropWhile drop = e :: t) ∨
      ∃ c ∈ x, ∃ rest, (x ++ e :: t).dropWhile drop = c :: rest := by
  induction x with
  | nil => exact .inl ⟨rfl, List.dropWhile_cons_of_neg (by simp [he])⟩
  | cons c x ih =>
    by_cases hc : drop c
    · rw [List.cons_append, List.dropWhile_cons_of_pos hc, List.all_cons, hc]
      exact ih.imp id fun ⟨d, hd, hrest⟩ => ⟨d, List.mem_cons_of_mem c hd, hrest⟩
    · exact .inr ⟨c, List.mem_cons_self, _, List.dropWhile_cons_of_neg hc⟩

theorem isDigit_of_ends (he : endsAuthority .web e) : e.isDigit = false := by
  simp only [endsAuthority, Kind.isSpecial, Bool.true_and, Bool.or_eq_true, decide_eq_true_eq,
    or_assoc] at he
  obtain rfl | rfl | rfl | rfl := he
  all_goals rfl

theorem readPort_inside {scheme z : List Char} {port : Option Nat} {rest : List Char}
    (hz : IsInside z) (he : endsAuthority .web e)
    (h : readPort scheme (z ++ e :: t) = .ok (port, rest)) :
    rest = e :: t ∧ z.all Char.isDigit := by
  have ended (c : Char) : endsAuthority .web c =
      (decide (c = '/') || decide (c = '\\') || decide (c = '?') || decide (c = '#')) := by
    simp only [endsAuthority, Kind.isSpecial, Bool.true_and]
    grind
  unfold readPort at h
  dsimp only at h
  split at h
  · cases h
  · -- What follows the digits ends the authority, and nothing before `e` does.
    rename_i valid
    have hrest : rest = (z ++ e :: t).dropWhile Char.isDigit := by
      split at h
      all_goals exact (Prod.mk.inj (Except.ok.inj h)).2.symm
    obtain ⟨digits, hd⟩ | ⟨c, hc, after, hd⟩ :=
      dropWhile_inside (x := z) (t := t) (isDigit_of_ends he)
    · exact ⟨hrest.trans hd, digits⟩
    · rw [hd] at valid
      simp only [List.head?_cons, Option.all_some, ← ended, hz c hc] at valid
      simp at valid

end Host

/-- What an authority on the web was read from, given the text after its name. -/
structure ReadBy (scheme s : List Char) (authority : Authority) (rest after : List Char) :
    Prop where
  userinfo : readUserinfo .web s = .ok (authority.username, authority.password, after)
  host : Host.parse (splitHost .web false after).1 = .ok authority.host
  port : (∃ port, (splitHost .web false after).2 = ':' :: port ∧
      readPort scheme port = .ok (authority.port, rest)) ∨
    ((splitHost .web false after).2 = rest ∧ rest.head? ≠ some ':' ∧ authority.port = none)

theorem readBy_of_readAuthority {scheme s rest : List Char} {authority : Authority}
    (web : kindOf scheme = .web) (h : readAuthority scheme s = .ok (authority, rest)) :
    ∃ after, ReadBy scheme s authority rest after := by
  unfold readAuthority at h
  dsimp only at h
  rw [web] at h
  obtain ⟨⟨username, password, after⟩, hu, h⟩ := eq_ok_of_bind h
  dsimp only at h
  split at h
  · contradiction
  · simp only [Kind.isSpecial, if_true] at h
    obtain ⟨host, hh, h⟩ := eq_ok_of_bind h
    split at h
    · contradiction
    · split at h
      · rename_i port colon
        obtain ⟨⟨number, left⟩, hp, h⟩ := eq_ok_of_bind h
        dsimp only at h
        split at h
        · contradiction
        · obtain ⟨rfl, rfl⟩ := Prod.mk.inj (Except.ok.inj h)
          exact ⟨after, hu, hh, .inl ⟨port, colon, hp⟩⟩
      · rename_i left noColon
        obtain ⟨⟨number, left⟩, hp, h⟩ := eq_ok_of_bind h
        obtain ⟨rfl, rfl⟩ := Prod.mk.inj (Except.ok.inj hp)
        dsimp only at h
        split at h
        · contradiction
        · obtain ⟨rfl, rfl⟩ := Prod.mk.inj (Except.ok.inj h)
          refine ⟨after, hu, hh, .inr ⟨rfl, ?_, rfl⟩⟩
          intro colon
          obtain ⟨port, hc⟩ := List.head?_eq_some_iff.mp colon
          exact noColon port hc

structure ReadsHost (x : List Char) (authority : Authority) : Prop where
  username : authority.username = []
  password : authority.password = []
  host : ∃ text, Host.parse text = .ok authority.host ∧
    (x = text ∧ authority.port = none ∨ ∃ digits, x = text ++ ':' :: digits ∧
      digits.all Char.isDigit)

theorem ReadsHost.eq_text {x : List Char} {authority : Authority} (h : ReadsHost x authority)
    {c : Char} (last : x.getLast? = some c) (hc : c ≠ ':') (hd : c.isDigit = false) :
    Host.parse x = .ok authority.host ∧ authority.port = none := by
  obtain ⟨text, host, ⟨rfl, port⟩ | ⟨digits, rfl, digital⟩⟩ := h.host
  · exact ⟨host, port⟩
  · rw [List.getLast?_append, List.getLast?_eq_some_getLast (List.cons_ne_nil ':' digits),
      Option.some_or] at last
    have found : c ∈ ':' :: digits := Option.some.inj last ▸ List.getLast_mem _
    obtain rfl | found := List.mem_cons.mp found
    · contradiction
    · rw [List.all_eq_true.mp digital c found] at hd
      contradiction

theorem readAuthority_plain {scheme x t rest : List Char} {e : Char} {authority : Authority}
    (web : kindOf scheme = .web) (hx : IsInside x) (he : endsAuthority .web e) (unnamed : '@' ∉ x)
    (h : readAuthority scheme (x ++ e :: t) = .ok (authority, rest)) :
    rest = e :: t ∧ ReadsHost x authority := by
  obtain ⟨after, info, host, port⟩ := readBy_of_readAuthority web h
  rw [readUserinfo_plain hx he unnamed] at info
  obtain ⟨username, password, rfl⟩ :
      authority.username = [] ∧ authority.password = [] ∧ after = x ++ e :: t := by
    simpa [eq_comm] using info
  have noColon : e ≠ ':' := by
    rintro rfl
    contradiction
  obtain cut | ⟨y, z, rfl, cut⟩ := splitHost_inside (t := t) hx he false
  · rw [cut] at host port
    obtain ⟨after, colon, -⟩ | ⟨ending, -, none⟩ := port
    · exact absurd (List.cons.inj colon).1 noColon
    · exact ⟨ending.symm, username, password, x, host, .inl ⟨rfl, none⟩⟩
  · rw [cut] at host port
    obtain ⟨after, colon, hp⟩ | ⟨rfl, noPort, -⟩ := port
    · obtain ⟨-, rfl⟩ := List.cons.inj colon
      obtain ⟨ending, digits⟩ := readPort_inside (List.forall_mem_cons.mp hx.of_append.2).2 he hp
      exact ⟨ending, username, password, y, host, .inr ⟨z, rfl, digits⟩⟩
    · exact absurd rfl noPort

theorem readAuthority_named {scheme x t rest : List Char} {first e : Char} {authority : Authority}
    (web : kindOf scheme = .web) (hf : inUserinfoSet first = false) (hx : IsInside (first :: x))
    (he : endsAuthority .web e) (named : '@' ∈ x)
    (h : readAuthority scheme (first :: x ++ e :: t) = .ok (authority, rest)) :
    authority.username ≠ [] := by
  obtain ⟨after, info, -⟩ := readBy_of_readAuthority web h
  exact readUserinfo_named hf hx he named info

end CloudLookup.Url
