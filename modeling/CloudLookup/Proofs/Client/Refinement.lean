import CloudLookup.Client.Network
import CloudLookup.Proofs.Client.Preparing
import CloudLookup.Proofs.Describe.XmlAnswer
import CloudLookup.Proofs.Resolution.Questions
import CloudLookup.Proofs.Text.Utf8

/-! Resolving over the network. When the answers carry trees, a resolution comes to what it comes to
with a provider that says what the trees say, question by question. -/
namespace CloudLookup

open Markup (Tree)

def Provider.saying (payload : Nat → Tree) : Provider Nat :=
  ⟨fun n q => ⟨.ok (q.call.valueOf (payload n)), [], n + 1⟩⟩

/-- The n-th of the requests sent, that of the n-th question asked, is answered with the status 200
and a document that carries the n-th tree. Both are counted from a number on. -/
def Network.Serves (network : Network) (payload : Nat → Tree) (first : Nat) (asked : List Question)
    (sent : List Http.Request) : Prop :=
  ∀ n q request, asked[n]? = some q → sent[first + n]? = some request →
    ∃ document, q.call.Carries (payload (first + n)) document ∧
      network.respond (sent.take (first + n)) request =
        some ⟨200, Text.utf8 document.write⟩

theorem Call.interpret_ok (c : Call) (body : List Char) :
    c.interpret ⟨200, Text.utf8 body⟩ = ([], c.answer body) := by
  have ht : Http.Response.text ⟨200, Text.utf8 body⟩ = body := Text.ofUtf8Lossy_utf8 body
  unfold Call.interpret
  dsimp only
  rw [ht]
  rfl

namespace Lookup

theorem prefix_state {provider : Provider (List β)}
    (h : ∀ state q, state <+: (provider.answer state q).state) (l : Lookup ε α) (state : List β) :
    state <+: (l.run provider state).state := by
  induction l generalizing state with
  | done outcome => exact List.prefix_refl state
  | note line rest ih => exact ih state
  | ask question next ih => exact (h state question).trans (ih _ _)

end Lookup

namespace Client

variable {client : Client} {network : Network}

theorem prefix_answer (sent : List Http.Request) (q : Question) :
    sent <+: (client.answer network sent q).state := by
  rw [answer_eq]
  split
  · exact List.prefix_refl sent
  · exact List.prefix_append sent _

theorem answer_of_carries {sent : List Http.Request} {q : Question} {request : Http.Request}
    {log : List LogLine} {payload document : Tree}
    (hp : client.prepare sent (network.now sent) q = (log, .ok request))
    (hr : network.respond sent request = some ⟨200, Text.utf8 document.write⟩)
    (hc : q.call.Carries payload document) :
    client.answer network sent q = ⟨.ok (q.call.valueOf payload), log, sent ++ [request]⟩ := by
  rw [answer_eq, hp]
  dsimp only
  rw [hr, conclude]
  dsimp only
  rw [Call.interpret_ok, Call.answer_of_carries hc, List.append_nil]
  rfl

theorem answer_of_unfit {sent : List Http.Request} {q : Question} {region : String}
    {credentials : Signature.Credentials} {url : Url}
    (equipped : client.Equipped q.region region credentials url)
    (unfit : ¬ Signature.Fits region credentials) (hq : q.call.api.protocol = .query) :
    ∃ failure log, client.answer network sent q = ⟨.error failure, log, sent⟩ := by
  obtain ⟨log, problem, hp⟩ := prepare_error equipped unfit hq sent (network.now sent)
  refine ⟨problem.failure, log, ?_⟩
  rw [answer_eq, hp]

theorem run_saying {payload : Nat → Tree} (l : Lookup ε α) (sent : List Http.Request)
    (ready : ∀ q ∈ (l.run (client.provider network) sent).asked, ∀ sent time,
      ∃ log request, client.prepare sent time q = (log, .ok request))
    (served : network.Serves payload sent.length (l.run (client.provider network) sent).asked
      (l.run (client.provider network) sent).state) :
    (l.run (client.provider network) sent).outcome =
        (l.run (Provider.saying payload) sent.length).outcome ∧
      (l.run (client.provider network) sent).asked =
        (l.run (Provider.saying payload) sent.length).asked := by
  -- Each question adds one request, so the number of requests is the state of the other provider.
  induction l generalizing sent with
  | done outcome => exact ⟨rfl, rfl⟩
  | note line rest ih => exact ih sent ready served
  | ask q next ih =>
    obtain ⟨log, request, hp⟩ := ready q List.mem_cons_self sent (network.now sent)
    have hstate : (client.answer network sent q).state = sent ++ [request] := by
      rw [answer_eq, hp]
    -- What was sent first is in the final list, and so this request is the first to be answered.
    obtain ⟨more, hmore⟩ : sent ++ [request] <+:
        ((Lookup.ask q next).run (client.provider network) sent).state := by
      rw [← hstate]
      exact Lookup.prefix_state prefix_answer _ _
    obtain ⟨document, hc, hr⟩ := served 0 q request rfl (by rw [← hmore]; simp)
    rw [Nat.add_zero] at hc
    rw [← hmore, Nat.add_zero, List.append_assoc, List.take_left] at hr
    have hrun : (Lookup.ask q next).run (client.provider network) sent =
        let rest := (next (.ok (q.call.valueOf (payload sent.length)))).run
          (client.provider network) (sent ++ [request])
        { rest with asked := q :: rest.asked, log := log ++ rest.log } := by
      have ha : (client.provider network).answer sent q = _ := answer_of_carries hp hr hc
      rw [Lookup.run, ha]
    rw [hrun] at ready served ⊢
    have hlen : (sent ++ [request]).length = sent.length + 1 := by simp
    obtain ⟨ho, hq⟩ := ih (.ok (q.call.valueOf (payload sent.length))) (sent ++ [request])
      (fun q' hq' => ready q' (List.mem_cons_of_mem _ hq')) (by
        intro n q' request' hq' hrequest'
        have hn : (sent ++ [request]).length + n = sent.length + (n + 1) := by omega
        rw [hn] at hrequest' ⊢
        exact served (n + 1) q' request' hq' hrequest')
    rw [hlen] at ho hq
    exact ⟨ho, congrArg (q :: ·) hq⟩

end Client

/-- Resolving a reference to a cache cluster, a database or a network resource with a client comes
to what it comes to with the provider that says what the trees in the answers say. -/
theorem resolve_over_network {reference : String} {r : Reference}
    (h : Reference.parse reference = .ok r)
    (hr : r.resource ∈ [.cacheCluster, .dbInstance, .network])
    {client : Client} {region : Option String} {used : String}
    {credentials : Signature.Credentials} {url : Url}
    (equipped : client.Equipped (Region.given? region) used credentials url)
    (fits : Signature.Fits used credentials)
    {network : Network} {payload : Nat → Tree} {strict : Bool}
    (served : network.Serves payload 0
      ((resolve reference region strict).run (client.provider network) []).asked
      ((resolve reference region strict).run (client.provider network) []).state) :
    ((resolve reference region strict).run (client.provider network) []).outcome =
        ((resolve reference region strict).run (Provider.saying payload) 0).outcome ∧
      ((resolve reference region strict).run (client.provider network) []).asked =
        ((resolve reference region strict).run (Provider.saying payload) 0).asked := by
  have asks := asks_resolve (client.provider network) region strict [] h
  have query : r.resource.api.protocol = .query := by
    simp only [List.mem_cons, List.not_mem_nil, or_false] at hr
    obtain hr | hr | hr := hr <;> rw [hr] <;> rfl
  have ready : ∀ q ∈ ((resolve reference region strict).run (client.provider network) []).asked,
      ∀ sent time, ∃ log request, client.prepare sent time q = (log, .ok request) := by
    intro q hq sent time
    have hregion : q.region = Region.given? region := asks.region q hq
    have hapi : q.call.api = r.resource.api := asks.api q hq
    exact Client.prepare_ok (hregion ▸ equipped) fits (by rw [hapi, query]) sent time
  exact Client.run_saying _ [] ready served

section Sample

def localServer : Url :=
  ⟨"http".toList, some ⟨[], [], .ipv4 0x7F000001, some 4566⟩, .segments [[]], none, none⟩

def localClient (region : String) : Client :=
  ⟨some region, some localServer, fun _ => .fixed ⟨"AKIDEXAMPLE", "secret", some "token"⟩⟩

def scripted (document : Nat → Tree) : Network :=
  ⟨fun sent _ => some ⟨200, Text.utf8 (document sent.length).write⟩, fun _ => 0⟩

def oneRecord (list member : Markup.Name) (id : String) : Tree :=
  .node ⟨"Response", by decide, by decide⟩
    [.node list [.node ⟨"item", by decide, by decide⟩ [.leaf member id]]]

def networkThenGroup : Nat → Tree
  | 0 => oneRecord ⟨"vpcSet", by decide, by decide⟩ ⟨"vpcId", by decide, by decide⟩ "vpc-1"
  | _ =>
    oneRecord ⟨"securityGroupInfo", by decide, by decide⟩ ⟨"groupId", by decide, by decide⟩ "sg-2"

theorem usable_localServer : localServer.Usable :=
  ⟨by decide, rfl, ⟨"http".toList, "127.0.0.1:4566".toList, "/".toList, []⟩, rfl⟩

theorem equipped_localClient (region : String) :
    (localClient region).Equipped none region ⟨"AKIDEXAMPLE", "secret", some "token"⟩ localServer :=
  ⟨rfl, fun _ => rfl, rfl, usable_localServer⟩

theorem serves_scripted {asked : List Question} {sent : List Http.Request}
    (hapi : ∀ q ∈ asked, q.call.api = .ec2) :
    (scripted networkThenGroup).Serves networkThenGroup 0 asked sent := by
  intro n q request hq hs
  rw [Nat.zero_add] at hs ⊢
  have hlen : (sent.take n).length = n := by
    have := (List.getElem?_eq_some_iff.mp hs).1
    rw [List.length_take]
    omega
  have hq := hapi q (List.mem_of_getElem? hq)
  have hv : ∀ n, (networkThenGroup n).ListsOnce Api.ec2Shapes ∧
      XmlAnswer.KeepsApart Api.ec2Shapes (networkThenGroup n)
    | 0 => by decide
    | _ + 1 => (by decide : (networkThenGroup 1).ListsOnce Api.ec2Shapes ∧
      XmlAnswer.KeepsApart Api.ec2Shapes (networkThenGroup 1))
  refine ⟨networkThenGroup n, .root hq ?_ ?_, ?_⟩
  · rw [hq]
    exact (hv n).1
  · rw [hq]
    exact (hv n).2
  · unfold scripted
    dsimp only
    rw [hlen]

theorem resolve_over_network_group :
    ((resolve "aws:ec2:securityGroup:alpha-web:GroupId" none true).run
      ((localClient "eu-west-1").provider (scripted networkThenGroup)) []).outcome =
        .ok (some (.string "sg-2")) := by
  have hp : Reference.parse "aws:ec2:securityGroup:alpha-web:GroupId" =
      .ok ⟨.network, "securityGroup:alpha-web", "GroupId"⟩ := by rfl
  have asks := asks_resolve ((localClient "eu-west-1").provider (scripted networkThenGroup)) none
    true [] hp
  have fits : Signature.Fits "eu-west-1" ⟨"AKIDEXAMPLE", "secret", some "token"⟩ :=
    ⟨by decide, by decide, by decide⟩
  have h := resolve_over_network hp (by decide) (equipped_localClient "eu-west-1") fits
    (serves_scripted asks.api)
  have hn : Lookup.network (Region.given? none) "securityGroup:alpha-web" =
    Lookup.securityGroup none "alpha-web" := by rfl
  have hg := Lookup.run_securityGroup_of_network
    (by rfl : Lookup.splitGroupKey "alpha-web" = .ok ("alpha", "web"))
    (Provider.saying networkThenGroup) none 0
    (by rfl : Lookup.networkId? _ = some "vpc-1")
  have hv : (Call.securityGroups "web" "vpc-1").valueOf (networkThenGroup 1) =
    .object [("SecurityGroups", .array [.object [("GroupId", .string "sg-2")]])] := by rfl
  have hf : Lookup.first? "SecurityGroups"
      (.object [("SecurityGroups", .array [.object [("GroupId", .string "sg-2")]])]) =
    some (.object [("GroupId", .string "sg-2")]) := by rfl
  rw [h.1, (resolve_network _ none true _ hp).2, hn, hg]
  unfold Provider.saying
  dsimp only
  rw [hv]
  simp only [Lookup.concluded]
  rw [hf, Lookup.found, resolved]
  rfl

theorem resolve_with_newline :
    (localClient "eu\nwest").Equipped none "eu\nwest" ⟨"AKIDEXAMPLE", "secret", some "token"⟩
        localServer ∧
      (scripted networkThenGroup).Serves networkThenGroup 0
        ((resolve "aws:ec2:vpc:alpha:VpcId" none true).run
          ((localClient "eu\nwest").provider (scripted networkThenGroup)) []).asked
        ((resolve "aws:ec2:vpc:alpha:VpcId" none true).run
          ((localClient "eu\nwest").provider (scripted networkThenGroup)) []).state ∧
      (∃ failure, ((resolve "aws:ec2:vpc:alpha:VpcId" none true).run
        ((localClient "eu\nwest").provider (scripted networkThenGroup)) []).outcome =
          .error (.transport failure)) ∧
      ((resolve "aws:ec2:vpc:alpha:VpcId" none true).run
        (Provider.saying networkThenGroup) 0).outcome = .ok (some (.string "vpc-1")) := by
  have hp : Reference.parse "aws:ec2:vpc:alpha:VpcId" = .ok ⟨.network, "vpc:alpha", "VpcId"⟩ := by
    rfl
  have hn : Lookup.network (Region.given? none) "vpc:alpha" = Lookup.vpc none "alpha" := by rfl
  have equipped := equipped_localClient "eu\nwest"
  have asks := asks_resolve ((localClient "eu\nwest").provider (scripted networkThenGroup)) none
    true [] hp
  refine ⟨equipped, serves_scripted asks.api, ?_, ?_⟩
  · have unfit : ¬ Signature.Fits "eu\nwest" ⟨"AKIDEXAMPLE", "secret", some "token"⟩ :=
      fun h => absurd h.region (by decide)
    obtain ⟨failure, log, ha⟩ : ∃ failure log, ((localClient "eu\nwest").provider
        (scripted networkThenGroup)).answer [] ⟨.vpcs "alpha", none⟩ = ⟨.error failure, log, []⟩ :=
      Client.answer_of_unfit equipped unfit rfl
    refine ⟨failure, ?_⟩
    rw [(resolve_network _ none true _ hp).2, hn, Lookup.vpc, Lookup.run_picked]
    unfold Lookup.askedOnce
    rw [ha]
    rfl
  · have hv : (Call.vpcs "alpha").valueOf (networkThenGroup 0) =
      .object [("Vpcs", .array [.object [("VpcId", .string "vpc-1")]])] := by rfl
    have hf : Lookup.first? "Vpcs"
        (.object [("Vpcs", .array [.object [("VpcId", .string "vpc-1")]])]) =
      some (.object [("VpcId", .string "vpc-1")]) := by rfl
    rw [(resolve_network _ none true _ hp).2, hn, Lookup.vpc, Lookup.run_picked]
    unfold Lookup.askedOnce Provider.saying
    dsimp only
    rw [hv]
    simp only [Lookup.concluded]
    rw [hf, Lookup.found, resolved]
    rfl

end Sample

end CloudLookup
