import ArtifactRelease.Proofs.ConfigArgument
import ArtifactRelease.Proofs.PairedRuns

/-!
# What a deployment depends on

A deployment is configured by a few variables.  Two environments that hold the same texts in these,
up to the white space around them, and agree on whether to push to the registry, give deployments
that do the same and come to the same; all other variables, and where to store artifacts if none are
built, have no part in it.
-/

namespace ArtifactRelease

open ArtifactRelease.Text

attribute [ext] Performance

namespace Environment

/-- The variables that every deployment depends on. -/
def deploymentNames : List String :=
  ["NAMESPACE", "SLUG", "VERSION", "ARTIFACT_BUILDER", "SSH_KEY_PATH", "COMMIT"] ++ runNames

def storageNames : List String :=
  ["ARTIFACT_BUCKET", "ARTIFACT_PREFIX", "ARTIFACT_ENDPOINT"]

/-- A deployment with the options cannot tell the environments apart. -/
structure Interchangeable (options : PublishOptions) (environment other : Environment) : Prop where
  text_eq : ∀ name ∈ deploymentNames, environment.text? name = other.text? name
  saysYes_eq : environment.saysYes "PUSH_TO_ECR" = other.saysYes "PUSH_TO_ECR"
  storage_eq : options.build = true → ∀ name ∈ storageNames,
    environment.text? name = other.text? name

variable {options : PublishOptions} {environment other : Environment}

theorem Interchangeable.setting_eq (hsame : Interchangeable options environment other)
    {name : String} (hname : name ∈ deploymentNames) :
    environment.setting name = other.setting name := by
  rw [setting_eq_text?, setting_eq_text?]
  exact hsame.text_eq name hname

theorem Interchangeable.actionRun_eq (hsame : Interchangeable options environment other) :
    environment.actionRun = other.actionRun := by
  have hname (name : String) (hname : name ∈ runNames) :
      environment.setting name = other.setting name :=
    hsame.setting_eq (List.mem_append_right _ hname)
  simp only [actionRun, hname "GITHUB_JOB" (by decide), hname "GITHUB_RUN_ID" (by decide),
    hname "GITHUB_RUN_NUMBER" (by decide), hname "GITHUB_RUN_ATTEMPT" (by decide),
    hname "GITHUB_SHA" (by decide), hname "GITHUB_REPOSITORY" (by decide)]

theorem Interchangeable.builderLine_eq (hsame : Interchangeable options environment other) :
    environment.settings.builderLine = other.settings.builderLine := by
  have hcommand : environment.settings.builderCommand = other.settings.builderCommand :=
    hsame.setting_eq (by decide)
  rw [Settings.builderLine, Settings.builderLine, hcommand]

theorem Interchangeable.collector_eq (hsame : Interchangeable options environment other) :
    Collector.ofSettings environment.settings = Collector.ofSettings other.settings := by
  have hcommit : environment.settings.commit = other.settings.commit :=
    hsame.setting_eq (by decide)
  have hrun : environment.settings.actionRun = other.settings.actionRun := hsame.actionRun_eq
  rw [Collector.ofSettings, Collector.ofSettings, hcommit, hrun]

/-- The configurations are equal, since they only tell whether to push to the registry. -/
theorem Interchangeable.assemble_eq (hsame : Interchangeable options environment other)
    (metadata : Metadata) :
    BuildConfig.assemble environment.settings metadata =
      BuildConfig.assemble other.settings metadata := by
  have hnamespace : environment.settings.artifactNamespace = other.settings.artifactNamespace :=
    hsame.setting_eq (by decide)
  have hslug : environment.settings.slug = other.settings.slug := hsame.setting_eq (by decide)
  have hversion : environment.settings.version = other.settings.version :=
    hsame.setting_eq (by decide)
  have hkey : environment.settings.sshKeyPath = other.settings.sshKeyPath :=
    hsame.setting_eq (by decide)
  have hpushes : environment.settings.pushes = other.settings.pushes := by
    rw [pushes_settings, pushes_settings, hsame.saysYes_eq]
  simp only [BuildConfig.assemble, Settings.sshKey, hnamespace, hslug, hversion, hkey, hpushes]

theorem Interchangeable.location_eq (hsame : Interchangeable options environment other)
    (builder : Builder) (hbuild : options.build = true) :
    (BuilderFactory.under environment.settings builder).location? =
      (BuilderFactory.under other.settings builder).location? := by
  have hname (name : String) (hname : name ∈ storageNames) :
      environment.setting name = other.setting name := by
    rw [setting_eq_text?, setting_eq_text?]
    exact hsame.storage_eq hbuild name hname
  have hbucket : environment.settings.bucket = other.settings.bucket := hname _ (by decide)
  have hfolder : environment.settings.folder = other.settings.folder := hname _ (by decide)
  have hendpoint : environment.settings.endpoint = other.settings.endpoint := hname _ (by decide)
  simp only [BuilderFactory.under, Settings.storageEndpoint, hbucket, hfolder, hendpoint]

/-- Publishers for such environments can be exchanged, or neither can be made. -/
theorem Interchangeable.publishers (hsame : Interchangeable options environment other) :
    EndAlike (Publisher.Interchangeable options) (Publisher.ofSettings environment.settings)
      (Publisher.ofSettings other.settings) := by
  have hbuilder : Builder.ofSettings environment.settings = Builder.ofSettings other.settings := by
    rw [Builder.ofSettings, Builder.ofSettings, hsame.builderLine_eq]
  rw [Publisher.ofSettings_eq, Publisher.ofSettings_eq, ← hbuilder]
  cases Builder.ofSettings environment.settings with
  | error failure => exact .error failure
  | ok builder =>
      exact .ok ⟨⟨rfl, rfl, hsame.assemble_eq, hsame.location_eq builder⟩, hsame.collector_eq⟩

end Environment

/-! ## Worlds with the same writer -/

variable {σ τ : Type} {synchronous : Prop}

/-- In states that go together, the worlds take a workflow command or refuse it alike. -/
def Outside.DeliversAlike (related : σ → τ → Prop) (first : Outside σ) (second : Outside τ) :
    Prop :=
  ∀ command state counterpart, related state counterpart →
    (first.announce command state).1 = (second.announce command counterpart).1 ∧
      related (first.announce command state).2 (second.announce command counterpart).2

theorem Outside.deliversAlike_self (world : Outside σ) : world.DeliversAlike Eq world := by
  rintro command state _ rfl
  exact ⟨rfl, rfl⟩

def Pair.ofWorlds (synchronous : Prop) (related : σ → τ → Prop) (first : Outside σ)
    (second : Outside τ) : Pair σ τ where
  first := first
  second := second
  related := related
  corresponds := List.Forall₂ (Effect.Alike synchronous)

theorem Pair.ofWorlds_faithful {related : σ → τ → Prop} {first : Outside σ} {second : Outside τ}
    (hresembles : first.Resembles synchronous related second)
    (hdelivers : first.DeliversAlike related second) :
    (ofWorlds synchronous related first second).Faithful synchronous where
  resembles := hresembles
  quiet halike _ := halike
  append hearlier hlater := List.rel_append hearlier hlater
  emit command := by
    intro state counterpart hrelated
    obtain ⟨hsame, hafter⟩ := hdelivers command state counterpart hrelated
    rw [Plan.perform_emit, Plan.perform_emit]
    refine ⟨rfl, ?_, hafter⟩
    change List.Forall₂ (Effect.Alike synchronous)
      (command.effects (first.announce command state).1)
      (command.effects (second.announce command counterpart).1)
    rw [hsame]
    cases (second.announce command counterpart).1 with
    | ok => exact .cons (.announced command _) .nil
    | error reason => exact .cons (.announced command _) (.cons (.logged (.same _)) .nil)

/-! ## Deployments -/

/-- One run of a publisher that is made for some settings, with the report on it. -/
def Publisher.runOnce (settings : Settings) (options : PublishOptions) :
    Plan (Except Failure Report) := do
  match ofSettings settings with
  | .error failure => return .error failure
  | .ok publisher =>
    let (result, _) ← publisher.publish options
    return result

theorem Publisher.runOnce_paired {pair : Pair σ τ} (hpair : pair.Faithful synchronous)
    {options : PublishOptions} {settings others : Settings}
    (hsame : EndAlike (Interchangeable options) (ofSettings settings) (ofSettings others)) :
    (runOnce settings options).Paired pair (EndAlike (Report.Alike synchronous))
      (runOnce others options) := by
  rw [runOnce, runOnce]
  generalize ofSettings settings = made at hsame ⊢
  generalize ofSettings others = otherMade at hsame ⊢
  cases hsame with
  | error failure => exact Plan.paired_pure hpair (.error failure)
  | ok hpublisher =>
      apply (publish_paired hpair hpublisher).bind hpair
      rintro ⟨result, kept⟩ ⟨otherResult, otherKept⟩ hresult
      exact Plan.paired_pure hpair hresult

/-- In environments that are interchangeable an invocation to publish does the same, in every world.
In two worlds where commands and workflow commands come to the same, only what the clocks show and
the identifier of the run make a difference: the same commands are run, the same is announced and
logged, and the reports are alike. -/
theorem Environment.publish_depends_on_names {options : PublishOptions}
    {environment other : Environment} (hsame : Interchangeable options environment other) :
    (∀ {σ : Type} (world : Outside σ) (state : σ),
      (CommandLine.publish environment.settings options).perform world state =
        (CommandLine.publish other.settings options).perform world state) ∧
    ∀ {σ τ : Type} {synchronous : Prop} {related : σ → τ → Prop} {first : Outside σ}
      {second : Outside τ}, first.Resembles synchronous related second →
      first.DeliversAlike related second → ∀ {state counterpart}, related state counterpart →
      let run := (CommandLine.publish environment.settings options).perform first state
      let otherRun := (CommandLine.publish other.settings options).perform second counterpart
      run.value = otherRun.value ∧
        List.Forall₂ (Child.Command.Alike synchronous) (commandsOf run.effects)
          (commandsOf otherRun.effects) ∧
        announcedOf run.effects = announcedOf otherRun.effects ∧
        List.Forall₂ (Log.Event.Alike synchronous) (eventsOf run.effects)
          (eventsOf otherRun.effects) ∧
        List.Forall₂ (Effect.Alike synchronous) run.effects otherRun.effects ∧
        EndAlike (Report.Alike synchronous)
          ((Publisher.runOnce environment.settings options).perform first state).value
          ((Publisher.runOnce other.settings options).perform second counterpart).value := by
  constructor
  · intro σ world state
    have hpair := Pair.ofWorlds_faithful world.resembles_self world.deliversAlike_self
    obtain ⟨hvalue, heffects, hstate⟩ :=
      CommandLine.publish_paired hpair hsame.publishers state state rfl
    exact Performance.ext hvalue (effects_eq_of_alike heffects trivial) hstate
  · intro σ τ synchronous related first second hresembles hdelivers state counterpart hrelated
      run otherRun
    have hpair := Pair.ofWorlds_faithful hresembles hdelivers
    obtain ⟨hvalue, heffects, -⟩ :=
      CommandLine.publish_paired hpair hsame.publishers state counterpart hrelated
    obtain ⟨hreport, -, -⟩ :=
      Publisher.runOnce_paired hpair hsame.publishers state counterpart hrelated
    exact ⟨hvalue, commandsOf_alike heffects, announcedOf_alike heffects, eventsOf_alike heffects,
      heffects, hreport⟩

/-- Padding, the spelling of yes, the log filter, and a bucket where nothing is built. -/
theorem Environment.publish_depends_on_slug :
    let environment : Environment := fun name =>
      if name = "SLUG" then some "  parser\t"
      else if name = "PUSH_TO_ECR" then some "YES"
      else if name = "DEPLOY_LOG" then some "debug"
      else none
    let other : Environment := fun name =>
      if name = "SLUG" then some "parser"
      else if name = "PUSH_TO_ECR" then some " on "
      else if name = "ARTIFACT_BUCKET" then some "artifacts"
      else none
    let options : PublishOptions := { build := false }
    let first := Rehearsal.silent ⟨1700000000, 0⟩ ⟨0, 0⟩ 1
    let second := Rehearsal.silent ⟨1800000000, 0⟩ ⟨7, 0⟩ 2
    let run := (CommandLine.publish environment.settings options).perform first ()
    let otherRun := (CommandLine.publish other.settings options).perform second ()
    Interchangeable options environment other ∧ run.value.isOk ∧ run.value = otherRun.value ∧
      List.Forall₂ (Effect.Alike False) run.effects otherRun.effects := by
  intro environment other options first second run otherRun
  have hsame : Interchangeable options environment other := by
    constructor
    · rw [← setting_eq_text?, ← setting_eq_text?]
      decide
    · rw [← pushes_settings, ← pushes_settings]
      decide
    · intro hbuild
      cases hbuild
  have hdelivers : first.DeliversAlike Eq second := fun _ _ _ _ => ⟨rfl, rfl⟩
  obtain ⟨hvalue, -, -, -, heffects, -⟩ := (publish_depends_on_names hsame).2
    (Rehearsal.silent_resembles _ _ _ _ _ _) hdelivers rfl
  exact ⟨hsame, by decide +kernel, hvalue, heffects⟩

end ArtifactRelease
