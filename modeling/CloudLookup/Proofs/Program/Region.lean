import CloudLookup.Program.Basic
import CloudLookup.Proofs.Resolution.Questions
import CloudLookup.Proofs.Url.Parser

/-! The region of the program's calls. It is the first that is named by the flag, by the settings or
by the machine, but for two cases: a flag of white space alone hides the region of the settings, and
the region of the machine counts also when it is white space. -/
namespace CloudLookup.Program

def Blank (text : String) : Prop := ∀ c ∈ text.toList, Text.isBlank c

theorem allBlank_iff {r : String} : Text.allBlank r ↔ Blank r := by
  simp [Text.allBlank, Blank]

instance (text : String) : Decidable (Blank text) :=
  decidable_of_iff (Text.allBlank text) allBlank_iff

def Unnamed (region : Option String) : Prop := ∀ r ∈ region, Blank r

/-- The first region that is named. The white space around it is dropped, but not around that of the
machine. -/
inductive FirstNamed (flag settings machine : Option String) : Option String → Prop where
  | flag {r used : String} (given : flag = some r) (named : ¬ Blank r)
    (trimmed : Text.IsTrimmed r used) : FirstNamed flag settings machine (some used)
  | settings {r used : String} (noFlag : Unnamed flag) (given : settings = some r)
    (named : ¬ Blank r) (trimmed : Text.IsTrimmed r used) :
    FirstNamed flag settings machine (some used)
  | machine {r : String} (noFlag : Unnamed flag) (noSettings : Unnamed settings)
    (given : machine = some r) (named : ¬ Blank r) : FirstNamed flag settings machine (some r)
  | none (noFlag : Unnamed flag) (noSettings : Unnamed settings) (noMachine : Unnamed machine) :
    FirstNamed flag settings machine none

/-- The flag is white space, and behind it stands a region of the settings that the machine does not
name as well. -/
def Hides (flag settings machine : Option String) : Prop :=
  ∃ f r, flag = some f ∧ Blank f ∧ settings = some r ∧ ¬ Blank r ∧
    ∀ used, Text.IsTrimmed r used → machine ≠ some used

def OnlyBlank (flag settings machine : Option String) : Prop :=
  Unnamed flag ∧ Unnamed settings ∧ ∃ r, machine = some r ∧ Blank r

def Task.callRegion (t : Task) : Except Client.Problem String :=
  t.client.regionFor (Region.given? t.region)

/-- What is taken of the flag and the settings. The flag counts first, be it blank or not. -/
inductive Effective (flag settings : Option String) : Option String → Prop where
  | flag {r : String} (given : flag = some r) (named : ¬ Blank r) :
    Effective flag settings (some r)
  | settings {r : String} (noFlag : flag = none) (given : settings = some r) (named : ¬ Blank r) :
    Effective flag settings (some r)
  | blankFlag {r : String} (given : flag = some r) (blank : Blank r) : Effective flag settings none
  | nothing (noFlag : flag = none) (noSettings : Unnamed settings) : Effective flag settings none

theorem effective_effectiveRegion (s : Settings) (flag : Option String) :
    Effective flag s.region (s.effectiveRegion flag) := by
  have dropped {r : String} (h : Blank r) : (some r).filter (fun r => !Text.allBlank r) = none := by
    simp [Option.filter, allBlank_iff.mpr h]
  have kept {r : String} (h : ¬ Blank r) :
      (some r).filter (fun r => !Text.allBlank r) = some r := by
    simp [Option.filter, mt allBlank_iff.mp h]
  cases flag with
  | some r =>
    change Effective (some r) s.region ((some r).filter _)
    by_cases blank : Blank r
    · rw [dropped blank]
      exact .blankFlag rfl blank
    · rw [kept blank]
      exact .flag rfl blank
  | none =>
    change Effective none s.region (s.region.filter _)
    cases s.region with
    | none => exact .nothing rfl nofun
    | some r =>
      by_cases blank : Blank r
      · rw [dropped blank]
        exact .nothing rfl (by simpa [Unnamed] using blank)
      · rw [kept blank]
        exact .settings rfl rfl blank

theorem given?_of_named {r : String} (h : ¬ Blank r) :
    ∃ used, Region.given? (some r) = some used ∧ Text.IsTrimmed r used := by
  have region := callRegion_given? (some r)
  generalize Region.given? (some r) = t at region
  cases region with
  | blank blank => exact absurd blank h
  | named ht _ => exact ⟨_, rfl, ht⟩

section Task

variable {options : Options} {m : Machine} {t : Task}

theorem task_eq_ok (h : task options m = .ok t) :
    t.region = (Settings.load m.settings).settings.effectiveRegion options.region ∧
      t.client.defaultRegion = t.region.orElse fun _ => m.region := by
  obtain ⟨client, hc, ht⟩ := eq_ok_of_bind h
  obtain rfl := Except.ok.inj ht
  unfold Client.create at hc
  split at hc
  · obtain ⟨url, -, hc⟩ := eq_ok_of_bind hc
    obtain rfl := Except.ok.inj hc
    exact ⟨rfl, rfl⟩
  · obtain rfl := Except.ok.inj hc
    exact ⟨rfl, rfl⟩

theorem regionFor_of_mem_asked (t : Task) (provider : Provider σ) (state : σ) {q : Question}
    (hq : q ∈ (t.lookup.run provider state).asked) :
    t.client.regionFor q.region = t.callRegion := by
  rw [region_of_mem_asked provider t.region t.strict state hq]
  rfl

theorem callRegion_of_named {r : String} (hr : t.region = some r) (named : ¬ Blank r) :
    ∃ used, t.callRegion.toOption = some used ∧ Text.IsTrimmed r used := by
  obtain ⟨used, hu, trimmed⟩ := given?_of_named named
  refine ⟨used, ?_, trimmed⟩
  unfold Task.callRegion
  rw [hr, hu]
  rfl

theorem callRegion_of_none (hr : t.region = none)
    (default : t.client.defaultRegion = t.region.orElse fun _ => m.region) :
    t.callRegion.toOption = m.region := by
  unfold Task.callRegion Client.regionFor
  rw [hr] at default ⊢
  rw [default]
  cases m.region <;> rfl

end Task

section FirstNamed

variable {flag settings machine : Option String}

theorem not_unnamed {region : Option String} (h : ¬ Unnamed region) :
    ∃ r, region = some r ∧ ¬ Blank r := by
  simpa [Unnamed] using h

theorem firstNamed_machine_iff (noFlag : Unnamed flag) (passed : flag = none → Unnamed settings) :
    FirstNamed flag settings machine machine ↔
      ¬ Hides flag settings machine ∧ ¬ OnlyBlank flag settings machine := by
  constructor
  · intro first
    constructor
    · rintro ⟨_, r, -, -, rfl, named, other⟩
      cases first with
      | flag given named => exact named (noFlag _ given)
      | settings _ given _ trimmed =>
        obtain rfl := Option.some.inj given
        exact other _ trimmed rfl
      | machine _ noSettings => exact named (noSettings r rfl)
      | none _ noSettings => exact named (noSettings r rfl)
    · rintro ⟨-, noSettings, r, rfl, blank⟩
      cases first with
      | flag given named => exact named (noFlag _ given)
      | settings _ given named => exact named (noSettings _ given)
      | machine _ _ _ named => exact named blank
  · rintro ⟨shown, filled⟩
    by_cases noSettings : Unnamed settings
    · cases machine with
      | none => exact .none noFlag noSettings nofun
      | some r =>
        refine .machine noFlag noSettings rfl fun blank => ?_
        exact filled ⟨noFlag, noSettings, r, rfl, blank⟩
    · obtain ⟨r, rfl, named⟩ := not_unnamed noSettings
      obtain ⟨f, rfl⟩ := Option.ne_none_iff_exists'.mp (mt passed noSettings)
      -- The settings are passed over, so the machine has to name the same region.
      obtain ⟨used, trimmed, rfl⟩ : ∃ used, Text.IsTrimmed r used ∧ machine = some used := by
        apply Classical.byContradiction
        intro other
        refine shown ⟨f, r, rfl, noFlag f rfl, rfl, named, fun used trimmed same => ?_⟩
        exact other ⟨used, trimmed, same⟩
      exact .settings noFlag rfl named trimmed

end FirstNamed

/-- All calls of a task are made in one region. It is the first that is named exactly when no flag
of white space hides that of the settings and no white space is all that names one. -/
theorem callRegion_firstNamed_iff {options : Options} {m : Machine} {t : Task}
    (h : task options m = .ok t) :
    let settings := (Settings.load m.settings).settings.region
    (∀ network, ∀ q ∈ (t.lookup.run (t.client.provider network) []).asked,
        t.client.regionFor q.region = t.callRegion) ∧
      (FirstNamed options.region settings m.region t.callRegion.toOption ↔
        ¬ Hides options.region settings m.region ∧
          ¬ OnlyBlank options.region settings m.region) := by
  intro settings
  refine ⟨fun network _ hq => regionFor_of_mem_asked t _ [] hq, ?_⟩
  obtain ⟨region, default⟩ := task_eq_ok h
  have effective : Effective options.region settings t.region := by
    rw [region]
    exact effective_effectiveRegion _ _
  generalize hr : t.region = region at effective
  cases effective with
  | flag given named =>
    obtain ⟨used, hu, trimmed⟩ := callRegion_of_named hr named
    rw [hu]
    refine iff_of_true (.flag given named trimmed) ⟨?_, ?_⟩
    · rintro ⟨f, _, hf, blank, -⟩
      rw [given] at hf
      exact named (Option.some.inj hf ▸ blank)
    · rintro ⟨noFlag, -⟩
      exact named (noFlag _ given)
  | settings noFlag given named =>
    obtain ⟨used, hu, trimmed⟩ := callRegion_of_named hr named
    rw [hu]
    refine iff_of_true (.settings (by rw [noFlag]; nofun) given named trimmed) ⟨?_, ?_⟩
    · rintro ⟨f, _, hf, -⟩
      rw [noFlag] at hf
      contradiction
    · rintro ⟨-, noSettings, -⟩
      exact named (noSettings _ given)
  | blankFlag given blank =>
    rw [callRegion_of_none hr default]
    apply firstNamed_machine_iff
    · simpa [given, Unnamed] using blank
    · rw [given]
      nofun
  | nothing noFlag noSettings =>
    rw [callRegion_of_none hr default]
    apply firstNamed_machine_iff
    · rw [noFlag]
      nofun
    · exact fun _ => noSettings

section Sample

def twoRegions : Machine where
  environment := [("AWS_REGION", "us-east-1")]
  settings := .content (Text.utf8 "\x7b\"region\":\"eu-west-1\"\x7d".toList)
  logPath := ""
  logProblem := none

def askNetwork (flag : Option String) : Options := ⟨"aws:ec2:vpc:alpha:VpcId", flag, none⟩

theorem load_twoRegions :
    (Settings.load twoRegions.settings).settings = ⟨some "eu-west-1", true, none⟩ := by
  decide +kernel

def networkTask (region : Option String) : Task where
  client := ⟨region.orElse fun _ => some "us-east-1", none, fun _ => twoRegions.keys⟩
  key := "aws:ec2:vpc:alpha:VpcId"
  region := region
  strict := true

theorem task_askNetwork (flag : Option String) :
    task (askNetwork flag) twoRegions =
      .ok (networkTask (Settings.effectiveRegion ⟨some "eu-west-1", true, none⟩ flag)) := by
  unfold task
  rw [load_twoRegions]
  rfl

theorem callRegion_without_flag :
    task (askNetwork none) twoRegions = .ok (networkTask (some "eu-west-1")) ∧
      FirstNamed none (some "eu-west-1") (some "us-east-1") (some "eu-west-1") := by
  have h : task (askNetwork none) twoRegions = .ok (networkTask (some "eu-west-1")) :=
    task_askNetwork none
  have shown : ¬ Hides none (some "eu-west-1") (some "us-east-1") := by
    rintro ⟨_, _, _, _⟩
    contradiction
  have filled : ¬ OnlyBlank none (some "eu-west-1") (some "us-east-1") := by
    rintro ⟨-, noSettings, -⟩
    exact absurd (noSettings _ rfl) (by decide)
  have law := (callRegion_firstNamed_iff h).2
  rw [load_twoRegions] at law
  exact ⟨h, law.mpr ⟨shown, filled⟩⟩

theorem blank_flag_hides_settings :
    task (askNetwork (some " ")) twoRegions = .ok (networkTask none) ∧
      ((networkTask none).lookup.run (Provider.fixed fun _ => .ok .null) ()).asked =
        [⟨.vpcs "alpha", none⟩] ∧
      (networkTask none).callRegion = .ok "us-east-1" ∧
      ¬ FirstNamed (some " ") (some "eu-west-1") (some "us-east-1") (some "us-east-1") := by
  refine ⟨task_askNetwork (some " "), by rfl, by rfl, ?_⟩
  intro first
  cases first with
  | flag given named => exact named (Option.some.inj given ▸ by decide)
  | settings _ given _ trimmed =>
    obtain rfl := Option.some.inj given
    obtain ⟨before, after, cut, -, -⟩ := trimmed.cut
    have other : 'a' ∈ "eu-west-1".toList := by simp [cut]
    exact absurd other (by decide)
  | machine _ noSettings => exact absurd (noSettings _ rfl) (by decide)

end Sample

end CloudLookup.Program
