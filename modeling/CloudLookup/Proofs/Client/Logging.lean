import CloudLookup.Proofs.Client.Refinement
import CloudLookup.Proofs.Http.ErrorBody
import CloudLookup.Proofs.Lookup.Failure
import CloudLookup.Proofs.Resolution.Basic

/-! What the log tells of the bodies of errors. A call logs the first bytes of a body and no more,
but a lenient resolution also logs the error that it drops, and that was read from the whole body. -/
namespace CloudLookup

/-- Two networks that differ only in the bodies of errors, and there only after the first bytes. -/
structure Network.AlikeInFront (one two : Network) : Prop where
  now : one.now = two.now
  respond : ∀ sent request, one.respond sent request = two.respond sent request ∨
    ∃ a b, one.respond sent request = some a ∧ two.respond sent request = some b ∧
      a.status = b.status ∧ a.isSuccess = false ∧ CloudLookup.AlikeInFront a.text b.text

def Http.Response.error (r : Http.Response) : ApiError := ApiError.ofBody r.status r.text

def Http.Response.errorLine (r : Http.Response) : LogLine :=
  ⟨.error, s!"API error: {Http.statusText r.status} - {String.ofList (loggedBody r.text)}"⟩

theorem Http.Response.errorLine_eq {a b : Http.Response} (status : a.status = b.status)
    (bodies : AlikeInFront a.text b.text) : a.errorLine = b.errorLine := by
  unfold errorLine
  rw [status, loggedBody_eq bodies]

namespace Client

theorem conclude_of_error {response : Http.Response} (h : response.isSuccess = false) (c : Call)
    (request : Http.Request) :
    conclude c request (some response) =
      ([response.errorLine], .error (.api response.error)) := by
  unfold conclude Call.interpret
  dsimp only
  rw [h]
  rfl

theorem answer_of_refused {client : Client} {network : Network} {sent : List Http.Request}
    {q : Question} {request : Http.Request} {response : Http.Response} {log : List LogLine}
    (hp : client.prepare sent (network.now sent) q = (log, .ok request))
    (hr : network.respond sent request = some response) (hs : response.isSuccess = false) :
    client.answer network sent q =
      ⟨.error (.api response.error), log ++ [response.errorLine], sent ++ [request]⟩ := by
  rw [answer_eq, hp]
  dsimp only
  rw [hr, conclude_of_error hs]

theorem answer_alike {one two : Network} (alike : one.AlikeInFront two) (client : Client)
    (sent : List Http.Request) (q : Question) :
    (client.answer one sent q).AlikeButFailure (client.answer two sent q) := by
  rw [answer_eq, answer_eq, ← alike.now]
  cases client.prepare sent (one.now sent) q with
  | mk log prepared =>
    cases prepared with
    | error e => exact ⟨rfl, rfl, .inl rfl⟩
    | ok request =>
      dsimp only
      obtain same | ⟨a, b, ha, hb, status, failed, bodies⟩ := alike.respond sent request
      · rw [same]
        exact ⟨rfl, rfl, .inl rfl⟩
      · have failed' : b.isSuccess = false := by
          unfold Http.Response.isSuccess at failed ⊢
          rwa [← status]
        rw [ha, hb, conclude_of_error failed, conclude_of_error failed',
          Http.Response.errorLine_eq status bodies]
        exact ⟨rfl, rfl, .inr ⟨_, _, rfl, rfl⟩⟩

end Client

/-- The line about a failure that a lenient resolution drops, for the outcome of the strict one. -/
def droppedLine (reference : String) : Except ResolveError (Option Json) → List LogLine
  | .ok _ => []
  | .error e =>
    if e.isSoft then [⟨.debug, s!"Error while resolving {reference}: {e.message}"⟩] else []

theorem droppedLine_resolved (reference path : String) (found : Except ResolveError Json) :
    droppedLine reference (resolved reference path true found) =
      resolvedLog reference false found := by
  cases found with
  | ok record =>
    simp only [resolved, resolvedLog, property]
    split <;> rfl
  | error e => simp [resolved, resolvedLog, droppedLine]

theorem log_resolve (provider : Provider σ) (state : σ) (reference : String)
    (region : Option String) (strict : Bool) :
    ((resolve reference region strict).run provider state).log =
      ((resolve reference region true).run provider state).log ++ if strict then [] else
        droppedLine reference ((resolve reference region true).run provider state).outcome := by
  cases strict with
  | true => exact (List.append_nil _).symm
  | false =>
    cases h : Reference.parse reference with
    | error e =>
      obtain rfl | ⟨rest, rfl⟩ := Reference.parse_error h <;>
        simp [run_resolve_of_error h, droppedLine, ResolveError.isSoft]
    | ok r =>
      simp only [run_resolve_of_ok h, droppedLine_resolved, resolvedLog_strict, List.append_nil]
      rfl

section Resolve

variable {one two : Provider σ}
  (alike : ∀ state q, (one.answer state q).AlikeButFailure (two.answer state q))
  (reference : String) (region : Option String) (state : σ)

include alike in
theorem resolve_alike :
    ((resolve reference region true).run one state).AlikeButFailure
      ((resolve reference region true).run two state) := by
  cases h : Reference.parse reference with
  | error e =>
    rw [run_resolve_of_error h, run_resolve_of_error h]
    exact ⟨rfl, rfl, rfl, .inl rfl⟩
  | ok r =>
    obtain ⟨asked, log, after, outcome⟩ :=
      (Lookup.EndsOnFailure.find (Region.given? region) r).run_alike alike state
    rw [run_resolve_of_ok h, run_resolve_of_ok h]
    simp only [resolvedLog_strict, List.append_nil]
    refine ⟨asked, log, after, ?_⟩
    obtain same | ⟨e, f, he, hf⟩ := outcome
    · exact .inl (congrArg (resolved reference r.property true) same)
    · exact .inr ⟨e, f, congrArg (resolved reference r.property true) he,
        congrArg (resolved reference r.property true) hf⟩

end Resolve

theorem droppedLine_eq_iff {reference : String} {one two : Except ResolveError (Option Json)}
    (alike : one = two ∨ ∃ e f, one = .error (.transport e) ∧ two = .error (.transport f)) :
    droppedLine reference one = droppedLine reference two ↔
      one.mapError ResolveError.message = two.mapError ResolveError.message := by
  obtain rfl | ⟨e, f, rfl, rfl⟩ := alike
  · simp
  · have soft (failure : Failure) : droppedLine reference (.error (.transport failure)) =
        [⟨.debug, ("Error while resolving " ++ reference ++ ": ") ++
          (ResolveError.transport failure).message⟩] := by rfl
    rw [soft, soft]
    simp only [Except.mapError, List.cons.injEq, LogLine.mk.injEq, true_and, and_true,
      String.append_right_inj, Except.error.injEq]

/-- Over two networks that differ only in the bodies of errors after their first bytes, resolutions
log the same when they are strict. Lenient ones log the same exactly when the strict ones fail with
the same wording or have the same value: their logs differ at most in that wording. -/
theorem log_resolve_eq_iff {one two : Network} (alike : one.AlikeInFront two) (client : Client)
    (sent : List Http.Request) (reference : String) (region : Option String) (strict : Bool) :
    let run (network : Network) (strict : Bool) :=
      (resolve reference region strict).run (client.provider network) sent
    ((run one strict).log = (run two strict).log ↔ strict = true ∨
      (run one true).outcome.mapError ResolveError.message =
        (run two true).outcome.mapError ResolveError.message) ∧
    ∃ lines,
      (run one strict).log =
        lines ++ (if strict then [] else droppedLine reference (run one true).outcome) ∧
      (run two strict).log =
        lines ++ (if strict then [] else droppedLine reference (run two true).outcome) := by
  intro run
  obtain ⟨-, log, -, outcome⟩ : (run one true).AlikeButFailure (run two true) :=
    resolve_alike (Client.answer_alike alike client) reference region sent
  have first : (run one strict).log = (run one true).log ++ _ := log_resolve ..
  have second : (run two strict).log = (run two true).log ++ _ := log_resolve ..
  rw [← log] at second
  refine ⟨?_, _, first, second⟩
  rw [first, second, List.append_cancel_left_eq]
  cases strict with
  | true => simp
  | false => simpa using droppedLine_eq_iff outcome

section Sample

def refusal (reason : String) : List Char :=
  "<Error>".toList ++ List.replicate 200 ' ' ++ "<Message>".toList ++ reason.toList ++
    "</Message></Error>".toList

def refusing (reason : String) : Network :=
  ⟨fun _ _ => some ⟨403, Text.utf8 (refusal reason)⟩, fun _ => 0⟩

def refusedRun (reason : String) (strict : Bool) :
    Run ResolveError (Option Json) (List Http.Request) :=
  (resolve "aws:ec2:vpc:alpha:VpcId" none strict).run
    ((localClient "eu-west-1").provider (refusing reason)) []

theorem alikeInFront_refusing : (refusing "one").AlikeInFront (refusing "two") := by
  refine ⟨rfl, fun sent request => .inr ⟨⟨403, Text.utf8 (refusal "one")⟩,
    ⟨403, Text.utf8 (refusal "two")⟩, rfl, rfl, rfl, rfl, ?_⟩⟩
  unfold Http.Response.text
  rw [Text.ofUtf8Lossy_utf8, Text.ofUtf8Lossy_utf8]
  have front : Text.cut 200 (refusal "one") = Text.cut 200 (refusal "two") := by decide +kernel
  refine ⟨by decide +kernel, Text.cut 200 (refusal "one"), isFront_cut .., ?_⟩
  rw [front]
  exact isFront_cut ..

theorem outcome_refusedRun (reason : String) :
    (refusedRun reason true).outcome =
      .error (.transport (.api (ApiError.ofBody 403 (refusal reason)))) := by
  have hp : Reference.parse "aws:ec2:vpc:alpha:VpcId" = .ok ⟨.network, "vpc:alpha", "VpcId"⟩ := by
    rfl
  have hn : Lookup.network (Region.given? none) "vpc:alpha" = Lookup.vpc none "alpha" := by rfl
  have fits : Signature.Fits "eu-west-1" ⟨"AKIDEXAMPLE", "secret", some "token"⟩ :=
    ⟨by decide, by decide, by decide⟩
  obtain ⟨log, request, prepared⟩ := Client.prepare_ok (q := ⟨.vpcs "alpha", none⟩)
    (equipped_localClient "eu-west-1") fits rfl [] 0
  have answered : (localClient "eu-west-1").answer (refusing reason) [] ⟨.vpcs "alpha", none⟩ = _ :=
    Client.answer_of_refused prepared rfl rfl
  unfold refusedRun
  rw [(resolve_network _ none true _ hp).2, hn, Lookup.vpc, Lookup.run_picked]
  unfold Lookup.askedOnce Client.provider
  dsimp only
  rw [answered, Http.Response.error, Http.Response.text, Text.ofUtf8Lossy_utf8]
  rfl

theorem log_resolve_eq_of_strict : (refusedRun "one" true).log = (refusedRun "two" true).log :=
  (log_resolve_eq_iff alikeInFront_refusing (localClient "eu-west-1") [] "aws:ec2:vpc:alpha:VpcId"
    none true).1.mpr (.inl rfl)

theorem log_tells_reason :
    (refusing "one").AlikeInFront (refusing "two") ∧
      (refusedRun "one" false).log ≠ (refusedRun "two" false).log := by
  refine ⟨alikeInFront_refusing, fun same => ?_⟩
  have one : ApiError.ofBody 403 (refusal "one") = ⟨403, none, some "one"⟩ := by decide +kernel
  have two : ApiError.ofBody 403 (refusal "two") = ⟨403, none, some "two"⟩ := by decide +kernel
  obtain ⟨-, log, -, outcome⟩ : (refusedRun "one" true).AlikeButFailure (refusedRun "two" true) :=
    resolve_alike (Client.answer_alike alikeInFront_refusing _) _ none []
  have first : (refusedRun "one" false).log = (refusedRun "one" true).log ++ _ := log_resolve ..
  have second : (refusedRun "two" false).log = (refusedRun "two" true).log ++ _ := log_resolve ..
  rw [first, second, log, List.append_cancel_left_eq] at same
  have wording := (droppedLine_eq_iff outcome).mp same
  rw [outcome_refusedRun, outcome_refusedRun, one, two] at wording
  exact absurd (Except.error.inj wording) (by decide)

end Sample

end CloudLookup
