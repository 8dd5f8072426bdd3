import ArtifactRelease.Collector
import ArtifactRelease.Proofs.ConfigArgument
import ArtifactRelease.Proofs.Lines

/-!
# Reading the settings

What is read from the environment are texts without white space at their ends, none of them empty,
and a run of the automation service only if something is known about it.  These are all the settings
that there can be: each such record is read again from any environment that it is written into, with
whatever white space around its texts.
-/

namespace ArtifactRelease

open ArtifactRelease.Text

/-! ## Settings by name -/

def ActionRun.named (run : ActionRun) : List (String × Option String) :=
  [("GITHUB_JOB", run.job), ("GITHUB_RUN_ID", run.runId), ("GITHUB_RUN_NUMBER", run.runNumber),
    ("GITHUB_RUN_ATTEMPT", run.runAttempt), ("GITHUB_SHA", run.sha),
    ("GITHUB_REPOSITORY", run.repository)]

namespace Settings

/-- All settings under the names of their variables; without a run its identifiers are not set. -/
def named (settings : Settings) : List (String × Option String) :=
  [("NAMESPACE", settings.artifactNamespace), ("SLUG", settings.slug),
    ("VERSION", settings.version), ("PUSH_TO_ECR", settings.pushToRegistry),
    ("ARTIFACT_BUCKET", settings.bucket), ("ARTIFACT_PREFIX", settings.folder),
    ("ARTIFACT_ENDPOINT", settings.endpoint), ("ARTIFACT_BUILDER", settings.builderCommand),
    ("SSH_KEY_PATH", settings.sshKeyPath), ("COMMIT", settings.commit),
    ("DEPLOY_LOG", settings.logFilter)] ++ (settings.actionRun.getD {}).named

def text? (settings : Settings) (name : String) : Option String :=
  (settings.named.lookup name).join

structure WellFormed (settings : Settings) : Prop where
  texts : ∀ entry ∈ settings.named, ∀ text ∈ entry.2, text ≠ "" ∧ Unpadded text.toList
  /-- Of a run that is there something is known. -/
  run : ∀ run ∈ settings.actionRun, ∃ entry ∈ run.named, entry.2.isSome

/-- The environment with the settings written into it: each that is set stands under its name,
between the texts for that name. -/
def writeTo (settings : Settings) (before after : String → String) (environment : Environment) :
    Environment := fun name =>
  match settings.text? name with
  | some text => some (before name ++ text ++ after name)
  | none => environment name

/-- What the rest of the program is given is never blank: neither a setting that is set, nor a
default in its place, the folder within the bucket apart, which need not be given. -/
structure Filled (settings : Settings) : Prop where
  givenCommit : ∀ commit ∈ (Collector.ofSettings settings).givenCommit, ¬Blank commit
  bucket : ∀ bucket ∈ settings.bucket, ¬Blank bucket
  folder : ∀ folder ∈ settings.folder, ¬Blank folder
  endpoint : ¬Blank settings.storageEndpoint
  sshKey : ¬Blank settings.sshKey
  builderLine : ¬Blank settings.builderLine
  location : ∀ builder location, (BuilderFactory.under settings builder).location? = .ok location →
    ¬Blank location.endpoint ∧ ¬Blank location.bucket ∧
      (Blank location.folder → settings.folder = none ∧ location.folder = "")

end Settings

/-! ## The names settle the settings -/

namespace ActionRun

theorem isEmpty_iff {run : ActionRun} : run.isEmpty ↔ ∀ entry ∈ run.named, entry.2 = none := by
  simp [isEmpty, named, and_assoc]

theorem eq_of_named {run other : ActionRun} (hnamed : run.named = other.named) : run = other := by
  cases run
  cases other
  simpa [named] using hnamed

theorem eq_empty_of_isEmpty {run : ActionRun} (hempty : run.isEmpty) : run = {} := by
  obtain ⟨job, runId, runNumber, runAttempt, sha, repository⟩ := run
  simpa [isEmpty, and_assoc] using hempty

end ActionRun

namespace Settings

variable {settings other : Settings}

/-- The names are those of the variables, and each stands for what is found under it. -/
theorem named_eq (settings : Settings) :
    settings.named = Environment.settingNames.map fun name => (name, settings.text? name) := rfl

theorem WellFormed.actionRun_eq (hsettings : settings.WellFormed) :
    settings.actionRun =
      if (settings.actionRun.getD {}).isEmpty then none else settings.actionRun.getD {} := by
  cases hrun : settings.actionRun with
  | none => rfl
  | some run =>
      obtain ⟨entry, hentry, hknown⟩ := hsettings.run run hrun
      rw [Option.getD_some, if_neg]
      intro hempty
      rw [ActionRun.isEmpty_iff.1 hempty entry hentry] at hknown
      cases hknown

/-- No two records of settings as they can be read are the same by name. -/
theorem WellFormed.eq_of_named (hsettings : settings.WellFormed) (hother : other.WellFormed)
    (hnamed : settings.named = other.named) : settings = other := by
  obtain ⟨hfields, hrun⟩ := List.append_inj hnamed rfl
  have hactionRun : settings.actionRun = other.actionRun := by
    rw [hsettings.actionRun_eq, hother.actionRun_eq, ActionRun.eq_of_named hrun]
  cases settings
  cases other
  simpa [and_assoc] using And.intro hfields hactionRun

theorem WellFormed.not_blank (hsettings : settings.WellFormed) {entry : String × Option String}
    (hentry : entry ∈ settings.named) : ∀ text ∈ entry.2, ¬Blank text := by
  intro text htext hblank
  obtain ⟨hne, hstart, -⟩ := hsettings.texts entry hentry text htext
  obtain ⟨c, rest, hchars⟩ := List.exists_cons_of_ne_nil (by simpa using hne : text.toList ≠ [])
  rw [hchars] at hstart
  exact hstart c rfl (hblank c (hchars ▸ List.mem_cons_self))

/-- A default that is not blank does not change that. -/
theorem not_blank_getD {text : Option String} {default : String}
    (htext : ∀ given ∈ text, ¬Blank given) (hdefault : ¬Blank default) :
    ¬Blank (text.getD default) := by
  cases text with
  | none => exact hdefault
  | some given => exact htext given rfl

theorem WellFormed.filled (hsettings : settings.WellFormed) : settings.Filled := by
  have hset (name : String) (text : Option String) (hmem : (name, text) ∈ settings.named) :
      ∀ given ∈ text, ¬Blank given := hsettings.not_blank hmem
  have hbucket := hset "ARTIFACT_BUCKET" settings.bucket (by simp [named])
  have hfolder := hset "ARTIFACT_PREFIX" settings.folder (by simp [named])
  have hendpoint : ¬Blank settings.storageEndpoint :=
    not_blank_getD (hset "ARTIFACT_ENDPOINT" _ (by simp [named])) (by decide)
  refine ⟨hset "COMMIT" _ (by simp [named, Collector.ofSettings]), hbucket, hfolder, hendpoint,
    not_blank_getD (hset "SSH_KEY_PATH" _ (by simp [named])) (by decide),
    not_blank_getD (hset "ARTIFACT_BUILDER" _ (by simp [named])) (by decide), ?_⟩
  intro builder location hlocation
  rw [BuilderFactory.location?] at hlocation
  split at hlocation
  · cases hlocation
  · next bucket hgiven =>
      obtain rfl := Except.ok.inj hlocation
      refine ⟨hendpoint, hbucket bucket hgiven, ?_⟩
      intro hblank
      cases hgiven : settings.folder with
      | none => exact ⟨rfl, by rw [BuilderFactory.under, hgiven]; rfl⟩
      | some folder =>
          rw [BuilderFactory.under, hgiven] at hblank
          exact absurd hblank (hfolder folder hgiven)

end Settings

/-! ## Reading -/

namespace Environment

/-- What is known about a run is kept if it is anything. -/
theorem exists_run (environment : Environment) :
    ∃ run : ActionRun, run.named = runNames.map (fun name => (name, environment.setting name)) ∧
      environment.actionRun = if run.isEmpty then none else some run :=
  ⟨_, rfl, rfl⟩

theorem named_settings (environment : Environment) :
    environment.settings.named =
      settingNames.map fun name => (name, environment.setting name) := by
  obtain ⟨run, hnamed, hrun⟩ := environment.exists_run
  have hknown : environment.actionRun.getD {} = run := by
    rw [hrun]
    split_ifs with hempty
    · exact (ActionRun.eq_empty_of_isEmpty hempty).symm
    · rfl
  rw [Settings.named, settings, hknown, hnamed]
  rfl

theorem wellFormed_settings (environment : Environment) : environment.settings.WellFormed where
  texts := by
    rw [named_settings]
    intro entry hentry text htext
    obtain ⟨name, -, rfl⟩ := List.mem_map.1 hentry
    obtain ⟨value, -, hvalue⟩ := Option.bind_eq_some_iff.1 (Option.mem_def.1 htext)
    exact unpadded_of_nonBlank? hvalue
  run := by
    obtain ⟨known, -, hrun⟩ := environment.exists_run
    intro run hmem
    rw [settings, hrun] at hmem
    split_ifs at hmem with hempty
    · cases hmem
    · obtain rfl := Option.some.inj hmem
      rw [ActionRun.isEmpty_iff] at hempty
      push Not at hempty
      obtain ⟨entry, hentry, hknown⟩ := hempty
      exact ⟨entry, hentry, Option.isSome_iff_ne_none.2 hknown⟩

/-- There is a run exactly if one of its variables is set. -/
theorem isSome_actionRun_iff (environment : Environment) :
    environment.settings.actionRun.isSome ↔
      ∃ name ∈ runNames, (environment.setting name).isSome := by
  obtain ⟨run, hnamed, hrun⟩ := environment.exists_run
  have hknown : ¬run.isEmpty ↔ ∃ name ∈ runNames, (environment.setting name).isSome := by
    rw [ActionRun.isEmpty_iff, hnamed, List.forall_mem_map]
    push Not
    simp only [Option.isSome_iff_ne_none, ne_eq]
  rw [← hknown, settings, hrun]
  split_ifs with hempty <;> simp [hempty]

/-! ## Writing and reading again -/

/-- A setting that was written is read as it was, and one that is not set is not found. -/
theorem setting_writeTo {settings : Settings} (hsettings : settings.WellFormed)
    {before after : String → String} {environment : Environment}
    (hblank : ∀ name, Blank (before name) ∧ Blank (after name))
    (hclear : ∀ name ∈ settingNames, settings.text? name = none → environment name = none)
    {name : String} (hname : name ∈ settingNames) :
    (settings.writeTo before after environment).setting name = settings.text? name := by
  cases htext : settings.text? name with
  | none =>
      have hwritten : settings.writeTo before after environment name = none := by
        simp only [Settings.writeTo, htext]
        exact hclear name hname htext
      rw [setting, hwritten, Option.bind_none]
  | some text =>
      have hwritten : settings.writeTo before after environment name =
          some (before name ++ text ++ after name) := by
        simp only [Settings.writeTo, htext]
      have hentry : (name, some text) ∈ settings.named := by
        rw [settings.named_eq, ← htext]
        exact List.mem_map_of_mem hname
      obtain ⟨hne, hunpadded⟩ := hsettings.texts _ hentry text rfl
      rw [setting, hwritten, Option.bind_some,
        nonBlank?_padded (hblank name).1 (hblank name).2 hunpadded hne]

/-- The settings of every environment are texts without padding, none of them empty, with a run
exactly if one of its variables is set, and the rest of the program sees nothing blank of them.  All
settings of this kind are read again from every environment that they are written into, with any
white space around them, as long as that has no other variable for settings. -/
theorem settings_read_back (environment : Environment) :
    environment.settings.WellFormed ∧
      (environment.settings.actionRun.isSome ↔
        ∃ name ∈ runNames, (environment.setting name).isSome) ∧
      environment.settings.Filled ∧
      ∀ settings : Settings, settings.WellFormed →
        ∀ (before after : String → String) (other : Environment),
          (∀ name, Blank (before name) ∧ Blank (after name)) →
          (∀ name ∈ settingNames, settings.text? name = none → other name = none) →
            (settings.writeTo before after other).settings = settings := by
  have hwellFormed := environment.wellFormed_settings
  refine ⟨hwellFormed, environment.isSome_actionRun_iff, hwellFormed.filled, ?_⟩
  intro settings hsettings before after other hblank hclear
  refine (wellFormed_settings _).eq_of_named hsettings ?_
  rw [named_settings, settings.named_eq]
  apply List.map_congr_left
  intro name hname
  rw [setting_writeTo hsettings hblank hclear hname]

/-- A commit between wide blanks, and a blank folder; what is written replaces another commit. -/
theorem given_commit_read_back :
    let environment : Environment := fun name =>
      if name = "COMMIT" then some "\u3000f00dfee\n"
      else if name = "ARTIFACT_PREFIX" then some " \t"
      else if name = "GITHUB_JOB" then some "build it"
      else none
    let settings : Settings :=
      { commit := some "f00dfee", actionRun := some { job := some "build it" } }
    let other : Environment := fun name =>
      if name = "COMMIT" then some "abc1234" else if name = "PATH" then some "/bin" else none
    let written := settings.writeTo (fun _ => "\t")
      (fun name => if name = "COMMIT" then "\u2028" else "") other
    environment.settings = settings ∧ written "COMMIT" = some "\tf00dfee\u2028" ∧
      written "PATH" = some "/bin" ∧ written.settings = settings := by
  intro environment settings other written
  have hread : environment.settings = settings := by decide
  have hwellFormed : settings.WellFormed := hread ▸ (settings_read_back environment).1
  refine ⟨hread, by decide, by decide, ?_⟩
  refine (settings_read_back environment).2.2.2 settings hwellFormed _ _ other ?_ (by decide)
  intro name
  refine ⟨by decide, ?_⟩
  split <;> decide

end Environment

end ArtifactRelease
