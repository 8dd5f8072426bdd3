import ArtifactRelease.Proofs.JsonReading
import ArtifactRelease.Proofs.PublishOutcome

/-!
# The configuration argument

The artifact builder is given its configuration as a JSON text on the command line.  What that text
holds is written out here as an object made from the variables of the environment and the answers
of version control, without the settings, the metadata and the configuration that stand between.
-/

namespace ArtifactRelease

open ArtifactRelease.Text Json Json.Value

variable {σ : Type} {outside : Outside σ}

/-! ## The object that is expected -/

namespace Environment

/-- The text of a variable without the white space around it, unless there is nothing else. -/
def text? (environment : Environment) (name : String) : Option String :=
  match environment name with
  | none => none
  | some text => if Blank text then none else some (trimmed text)

def field (environment : Environment) (key name : String) : List (String × Json.Value) :=
  match environment.text? name with
  | none => []
  | some text => [(key, .string text)]

def saysYes (environment : Environment) (name : String) : Bool :=
  match environment.text? name with
  | none => false
  | some text => ["true", "1", "yes", "on"].any fun word =>
      text.toList.map Char.toLower = word.toList.map Char.toLower

def runNames : List String :=
  ["GITHUB_JOB", "GITHUB_RUN_ID", "GITHUB_RUN_NUMBER", "GITHUB_RUN_ATTEMPT", "GITHUB_SHA",
    "GITHUB_REPOSITORY"]

def runObject (environment : Environment) : Json.Value :=
  .object ([("action", .bool true)]
    ++ environment.field "job" "GITHUB_JOB"
    ++ [("run", .object (environment.field "id" "GITHUB_RUN_ID"
      ++ environment.field "number" "GITHUB_RUN_NUMBER"
      ++ environment.field "attempt" "GITHUB_RUN_ATTEMPT"))]
    ++ environment.field "repository" "GITHUB_REPOSITORY"
    ++ environment.field "sha" "GITHUB_SHA")

/-- What is recorded about the build, when version control gave two answers. -/
def recordObject (environment : Environment) (headAnswer tagsAnswer createdAt : String) :
    Json.Value :=
  .object ([("commit", .string ((environment.text? "COMMIT").getD (trimmed headAnswer))),
      ("createdAt", .string createdAt)]
    ++ (if runNames.any fun name => (environment.text? name).isSome then
      [("githubData", environment.runObject)] else [])
    ++ [("tags", .array ((pieces '\n' (trimmed tagsAnswer)).map .string))])

def configObject (environment : Environment) (headAnswer tagsAnswer createdAt : String) :
    Json.Value :=
  .object ([("source", .string ".")]
    ++ environment.field "namespace" "NAMESPACE"
    ++ environment.field "slug" "SLUG"
    ++ environment.field "version" "VERSION"
    ++ [("type", .string "task-scripts"),
      ("pushToEcr", .bool (environment.saysYes "PUSH_TO_ECR")),
      ("buildRecordMeta", environment.recordObject headAnswer tagsAnswer createdAt),
      ("shouldUpdateList", .bool false), ("saveBuildLog", .bool true),
      ("sshPrivateKeyPath",
        .string ((environment.text? "SSH_KEY_PATH").getD "/root/.ssh/id_rsa"))])

/-! ## The settings hold the texts of the variables -/

theorem setting_eq_text? (environment : Environment) : environment.setting = environment.text? := by
  funext name
  rw [setting, text?]
  cases environment name with
  | none => rfl
  | some text =>
      have hblank : (trimmed text).isEmpty ↔ Blank text := by
        rw [String.isEmpty_iff, trimmed_eq_empty_iff]
      simp only [Option.bind_some, nonBlank?, hblank]

theorem optionalField_text? (environment : Environment) (key name : String) :
    optionalField key (environment.text? name) = environment.field key name := by
  rw [field]
  cases environment.text? name <;> rfl

theorem pushes_settings (environment : Environment) :
    environment.settings.pushes = environment.saysYes "PUSH_TO_ECR" := by
  have hword (text : String) : Settings.isTruthy text =
      ["true", "1", "yes", "on"].any fun word =>
        text.toList.map Char.toLower = word.toList.map Char.toLower := by
    have hlower : ∀ word ∈ ["true", "1", "yes", "on"],
        String.ofList (word.toList.map Char.toLower) = word := by decide
    rw [Settings.isTruthy, Bool.eq_iff_iff, decide_eq_true_eq, List.any_eq_true]
    constructor
    · intro hmem
      refine ⟨_, hmem, ?_⟩
      have hsame := congrArg String.toList (hlower _ hmem)
      simpa only [decide_eq_true_eq, String.toList_ofList] using hsame.symm
    · rintro ⟨word, hmem, hsame⟩
      rw [decide_eq_true_eq] at hsame
      rwa [hsame, hlower word hmem]
  rw [Settings.pushes, settings, saysYes, setting_eq_text?]
  cases environment.text? "PUSH_TO_ECR" with
  | none => rfl
  | some text => exact hword text

/-- The run of the settings, if one of its variables is not blank. -/
theorem actionRun_eq (environment : Environment) :
    ∃ run : ActionRun, (RunRecord.ofActionRun run).json = environment.runObject ∧
      environment.actionRun =
        if runNames.any fun name => (environment.text? name).isSome then some run else none := by
  refine ⟨⟨environment.text? "GITHUB_JOB", environment.text? "GITHUB_RUN_ID",
    environment.text? "GITHUB_RUN_NUMBER", environment.text? "GITHUB_RUN_ATTEMPT",
    environment.text? "GITHUB_SHA", environment.text? "GITHUB_REPOSITORY"⟩, ?_, ?_⟩
  · simp only [RunRecord.json, RunRecord.ofActionRun, RunInfo.json, optionalField_text?, runObject]
  · have hisNone (text : Option String) : text.isNone = !text.isSome := by cases text <;> rfl
    have hswap (known : Bool) (run : ActionRun) :
        (if !known then none else some run) = if known then some run else none := by
      cases known <;> rfl
    simp only [actionRun, setting_eq_text?, ActionRun.isEmpty, runNames, hisNone, List.any_cons,
      List.any_nil, Bool.or_false, ← Bool.not_or, Bool.or_assoc]
    exact hswap _ _

/-- The metadata that the answers amount to is the expected record. -/
theorem metadataFrom_json (environment : Environment) (ran : List Exchange) (now : Instant) :
    (metadataFrom environment.settings ran now).json =
      environment.recordObject (answerTo headQuestion ran) (answerTo tagsQuestion ran)
        now.timestamp := by
  obtain ⟨run, hobject, hrun⟩ := environment.actionRun_eq
  simp only [Metadata.json, metadataFrom, settings, hrun, setting_eq_text?, recordObject, splitTags]
  split_ifs
  · simp only [Option.map_some, hobject]
  · rfl

/-- The configuration that is assembled from the settings is the expected object. -/
theorem assemble_json (environment : Environment) (ran : List Exchange) (now : Instant) :
    (BuildConfig.assemble environment.settings (metadataFrom environment.settings ran now)).json =
      environment.configObject (answerTo headQuestion ran) (answerTo tagsQuestion ran)
        now.timestamp := by
  simp only [BuildConfig.json, BuildConfig.assemble, metadataFrom_json, pushes_settings,
    configObject]
  simp only [settings, setting_eq_text?, optionalField_text?, Settings.sshKey, ArtifactKind.json,
    ArtifactKind.name]

end Environment

/-! ## What is read back -/

/-- The keys of optional fields are among those that there can be. -/
theorem keys_optionalField (key : String) (text : Option String) :
    ((optionalField key text).map Prod.fst).Sublist [key] := by
  cases text with
  | none => exact List.nil_sublist _
  | some text => exact List.Sublist.refl _

theorem reads_optionalField (key : String) (text : Option String) (depth : Nat) :
    ∀ field ∈ optionalField key text, Reads (readValue depth) field.2 field.2 := by
  cases text with
  | none => exact List.forall_mem_nil _
  | some text => exact List.forall_mem_singleton.2 (reads_string depth text)

theorem RunInfo.reads_json (info : RunInfo) (depth : Nat) :
    Reads (readValue (depth + 1)) info.json info.json := by
  refine reads_object ?_ ?_
  · have hkeys := ((keys_optionalField "id" info.id).append
      (keys_optionalField "number" info.number)).append (keys_optionalField "attempt" info.attempt)
    rw [← List.map_append, ← List.map_append] at hkeys
    exact hkeys.nodup (by decide)
  · simp only [List.forall_mem_append]
    exact ⟨⟨reads_optionalField _ _ _, reads_optionalField _ _ _⟩, reads_optionalField _ _ _⟩

theorem RunRecord.reads_json (record : RunRecord) (depth : Nat) :
    Reads (readValue (depth + 2)) record.json record.json := by
  refine reads_object ?_ ?_
  · have hkeys := ((((List.Sublist.refl ["action"]).append
      (keys_optionalField "job" record.job)).append (.refl ["run"])).append
      (keys_optionalField "repository" record.repository)).append
      (keys_optionalField "sha" record.sha)
    simp only [List.map_append]
    exact hkeys.nodup (by decide)
  · simp only [List.forall_mem_append, List.forall_mem_singleton]
    exact ⟨⟨⟨⟨reads_bool _ _, reads_optionalField _ _ _⟩, record.run.reads_json depth⟩,
      reads_optionalField _ _ _⟩, reads_optionalField _ _ _⟩

theorem Metadata.reads_json (metadata : Metadata) (depth : Nat) :
    Reads (readValue (depth + 3)) metadata.json metadata.json := by
  have htags (tags : List String) :
      Reads (readValue (depth + 2)) (.array (tags.map .string)) (.array (tags.map .string)) := by
    refine reads_array ?_ ?_
    · simp only [List.forall_mem_map]
      exact fun text _ => .string text
    · simp only [List.forall_mem_map]
      exact fun text _ => reads_string _ text
  obtain ⟨commit, createdAt, _ | record, _ | tags⟩ := metadata
  all_goals
    refine reads_object (by simp) ?_
    simp [reads_string, RunRecord.reads_json, htags]

theorem BuildConfig.reads_json (config : BuildConfig) (depth : Nat) :
    Reads (readValue (depth + 4)) config.json config.json := by
  refine reads_object ?_ ?_
  · have hkeys := ((((List.Sublist.refl ["source"]).append
      (keys_optionalField "namespace" config.artifactNamespace)).append
      (keys_optionalField "slug" config.slug)).append
      (keys_optionalField "version" config.version)).append
      (.refl ["type", "pushToEcr", "buildRecordMeta", "shouldUpdateList", "saveBuildLog",
        "sshPrivateKeyPath"])
    simp only [List.map_append]
    exact hkeys.nodup (by decide)
  · simp only [List.forall_mem_append, List.forall_mem_singleton]
    refine ⟨⟨⟨⟨reads_string _ _, reads_optionalField _ _ _⟩, reads_optionalField _ _ _⟩,
      reads_optionalField _ _ _⟩, ?_⟩
    simp only [List.forall_mem_cons]
    exact ⟨reads_string _ _, reads_bool _ _, config.metadata.reads_json depth, reads_bool _ _,
      reads_bool _ _, reads_string _ _, List.forall_mem_nil _⟩

theorem BuildConfig.parse_json (config : BuildConfig) :
    Json.parse config.json.compact = .ok config.json :=
  (config.reads_json 123).readAll_compact

/-! ## The command of a run -/

/-- No question to version control comes with a configuration. -/
theorem Query.arguments_ne_publish (query : Query) (leading : List String) (text : String) :
    query.arguments ≠ leading ++ ["publish", "--config", text] := by
  intro heq
  have hpublish : "publish" ∈ query.arguments := by simp [heq]
  cases query <;> simp [Query.arguments] at hpublish

theorem Builder.eq_of_publishCommand_arguments {builder : Builder} {config : BuildConfig}
    {text : String}
    (heq : (builder.publishCommand config).arguments =
      builder.leading ++ ["publish", "--config", text]) : text = config.json.compact := by
  have htail := List.append_cancel_left heq
  simpa using htail.symm

/-- Whatever comes first, the last argument but one tells the commands apart. -/
theorem Builder.listCommand_arguments_ne_publish (builder : Builder) (operation : ListOperation)
    (location : ArtifactLocation) (leading : List String) (text : String) :
    (builder.listCommand operation location).arguments ≠
      leading ++ ["publish", "--config", text] := by
  intro heq
  have hlast := congrArg (fun arguments => arguments.reverse[1]?) heq
  simp [listCommand] at hlast

/-- Of all commands of a run only the publishing one has a configuration. -/
theorem config_of_mem_canonicalCommands {settings : Settings} {program : String}
    {leading : List String} {options : PublishOptions} {metadata : Metadata}
    {command : Child.Command}
    (hmem : command ∈ canonicalCommands settings program leading options
      (BuildConfig.assemble settings metadata)) {text : String}
    (harguments : command.arguments = leading ++ ["publish", "--config", text]) :
    text = (BuildConfig.assemble settings metadata).json.compact := by
  rw [← Publisher.map_command_steps settings ⟨program, leading⟩] at hmem
  obtain ⟨step, hstep, rfl⟩ := List.mem_map.1 hmem
  cases Publisher.known_of_mem_steps hstep with
  | query query => exact absurd harguments (query.arguments_ne_publish leading text)
  | publishing => exact Builder.eq_of_publishCommand_arguments harguments
  | listing hplace operation =>
      exact absurd harguments (Builder.listCommand_arguments_ne_publish _ operation _ _ text)

/-- Where the artifact is packed, that is done right after the questions to version control. -/
theorem canonicalCommands_eq_append {settings : Settings} {options : PublishOptions}
    (hbuild : options.build) (hpublish : options.publish) (hbucket : settings.bucket.isSome)
    (program : String) (leading : List String) (config : BuildConfig) :
    ∃ later, canonicalCommands settings program leading options config =
      ((if settings.commit.isSome then [] else [headQuestion]) ++ [tagsQuestion])
        ++ publishingCommand program leading config :: later := by
  obtain ⟨bucket, hbucket⟩ := Option.isSome_iff_exists.1 hbucket
  have hplace : settings.place?.isSome := by simp [Settings.place?, hbucket]
  obtain ⟨location, hplace⟩ := Option.isSome_iff_exists.1 hplace
  simp [canonicalCommands, hbuild, hpublish, hplace]

namespace CommandLine

/-- Nothing is run where the line of the artifact builder does not name a program. -/
theorem publish_runs_nothing {settings : Settings}
    (hwords : ∀ program leading,
      CommandWords.split? settings.builderLine ≠ some (program :: leading))
    (options : PublishOptions) (outside : Outside σ) (state : σ) :
    exchangesOf ((publish settings options).perform outside state).effects = [] := by
  have hnothing {failure : Failure} (hfailure : Publisher.ofSettings settings = .error failure) :
      exchangesOf ((publish settings options).perform outside state).effects = [] := by
    rw [publish_unconfigured hfailure]
    rfl
  rcases hsplit : CommandWords.split? settings.builderLine with _ | _ | ⟨program, leading⟩
  · exact hnothing (Publisher.ofSettings_of_openQuote hsplit)
  · exact hnothing (Publisher.ofSettings_of_empty hsplit)
  · exact absurd hsplit (hwords program leading)

/-- The configuration that an invocation to publish gives to the artifact builder is read back as
the object made from the environment, the answers of version control and the time of day.  It is
given whenever an artifact is to be built and published at a place that is known, and no question to
version control failed. -/
theorem publish_config_argument (outside : Outside σ) (environment : Environment)
    (options : PublishOptions) (state : σ) :
    let performance := (publish environment.settings options).perform outside state
    let ran := exchangesOf performance.effects
    match CommandWords.split? environment.settings.builderLine with
    | some (program :: leading) =>
      ∃ now, outside.Shows now ∧
        (∀ exchange ∈ ran, ∀ text,
          exchange.1.arguments = leading ++ ["publish", "--config", text] →
            Json.parse text = .ok
              (environment.configObject (answerTo headQuestion ran) (answerTo tagsQuestion ran)
                now.timestamp)) ∧
        (options.build → options.publish → (environment.text? "ARTIFACT_BUCKET").isSome →
          (∀ question ∈ [headQuestion, tagsQuestion], ∀ cause, (question, .error cause) ∉ ran) →
            ∃ exchange ∈ ran, ∃ text, exchange.1.program = program ∧
              exchange.1.arguments = leading ++ ["publish", "--config", text])
    | _ => ran = [] := by
  intro performance ran
  split
  · next program leading hwords =>
      obtain ⟨now, hnow, hcut⟩ := publish_cut hwords options outside state
      refine ⟨now, hnow, ?_, ?_⟩
      · intro exchange hmem text harguments
        rw [config_of_mem_canonicalCommands (hcut.mem hmem) harguments, BuildConfig.parse_json,
          environment.assemble_json]
      · intro hbuild hpublish hbucket hanswered
        have hbucket : environment.settings.bucket.isSome := by
          rwa [Environment.settings, Environment.setting_eq_text?]
        obtain ⟨later, hcommands⟩ := canonicalCommands_eq_append hbuild hpublish hbucket program
          leading (BuildConfig.assemble environment.settings
            (metadataFrom environment.settings ran now))
        rw [hcommands] at hcut
        obtain ⟨outcome, hmem⟩ := hcut.reached fun question hquestion =>
          hanswered question (by split at hquestion <;> simp_all)
        exact ⟨_, hmem, _, rfl, rfl⟩
  · next hwords => exact publish_runs_nothing hwords options outside state

end CommandLine

end ArtifactRelease
