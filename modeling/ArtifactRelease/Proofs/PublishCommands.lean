import ArtifactRelease.CommandLine.Run
import ArtifactRelease.Proofs.PublishRun

/-!
# The commands of a run

Settings and options determine the commands of a run, except that the configuration given to the
artifact builder holds what version control answered.  The commands are written out here word by
word, next to the functions that put them together.  Whatever comes of each of them, the ones that
are run are those up to the first that fails.
-/

namespace ArtifactRelease

open ArtifactRelease.Text

variable {σ : Type} {outside : Outside σ} {effects : List Effect}

/-! ## What was answered -/

/-- What a question was answered when it was first put. -/
def answerTo (question : Child.Command) (ran : List Exchange) : String :=
  match ran.find? (·.1 = question) with
  | some (_, .ok output) => output
  | _ => ""

/-- The metadata that the answers of version control amount to at a time of day. -/
def metadataFrom (settings : Settings) (ran : List Exchange) (now : Instant) : Metadata :=
  { commit := settings.commit.getD (trimmed (answerTo headQuestion ran))
    createdAt := now.timestamp
    runRecord := settings.actionRun.map RunRecord.ofActionRun
    tags := some (splitTags (answerTo tagsQuestion ran)) }

/-- What a collector comes to is determined by the answers, whatever is run after them. -/
theorem Collector.Dialogue.eq_metadataFrom {settings : Settings} {shows : Instant → Prop}
    {asked : List Exchange} {metadata : Metadata}
    (hdialogue : (Collector.ofSettings settings).Dialogue shows asked (.ok metadata))
    (later : List Exchange) :
    ∃ now, shows now ∧ metadata = metadataFrom settings (asked ++ later) now := by
  cases hdialogue with
  | @collected known commit hcommit output now hnow =>
      refine ⟨now, hnow, ?_⟩
      cases hcommit with
      | given hgiven =>
          have hcommit : settings.commit = some commit := hgiven
          simp [record, metadataFrom, answerTo, hcommit, ofSettings, VersionControl.command,
            Query.arguments, tagsQuestion]
      | asked hgiven head =>
          have hcommit : settings.commit = none := hgiven
          simp [record, metadataFrom, answerTo, hcommit, ofSettings, VersionControl.command,
            Query.arguments, tagsQuestion, headQuestion]

/-! ## Publishers -/

/-- The second reading of the line of the artifact builder comes to what the first came to. -/
theorem ListFactory.ofSettings_of_builders {settings : Settings} {builders : BuilderFactory}
    (hbuilders : BuilderFactory.ofSettings settings = .ok builders) :
    ofSettings settings = .ok ⟨builders.builder⟩ := by
  rw [BuilderFactory.ofSettings] at hbuilders
  rw [ofSettings]
  cases hbuilder : Builder.ofSettings settings with
  | error failure =>
      rw [hbuilder] at hbuilders
      cases hbuilders
  | ok builder =>
      rw [hbuilder] at hbuilders
      cases hbuilders
      rfl

namespace Publisher

variable {settings : Settings} {publisher : Publisher} {options : PublishOptions}

/-- The fresh publisher of settings whose line names a builder. -/
def under (settings : Settings) (builder : Builder) : Publisher :=
  fresh settings (.under settings builder) ⟨builder⟩

theorem ofSettings_eq (settings : Settings) :
    ofSettings settings = (Builder.ofSettings settings).map (under settings) := by
  rw [ofSettings, BuilderFactory.ofSettings, ListFactory.ofSettings]
  cases Builder.ofSettings settings <;> rfl

theorem ofSettings_eq_ok_iff :
    ofSettings settings = .ok publisher ↔
      ∃ program leading,
        CommandWords.split? settings.builderLine = some (program :: leading) ∧
        publisher = under settings ⟨program, leading⟩ := by
  rw [ofSettings_eq, Builder.ofSettings, Builder.parse]
  rcases hwords : CommandWords.split? settings.builderLine with _ | _ | ⟨program, leading⟩
  · simp [Except.map]
  · simp [Except.map]
  · simp only [Except.map, Except.ok.injEq, Option.some.injEq, List.cons.injEq]
    constructor
    · rintro rfl
      exact ⟨program, leading, ⟨rfl, rfl⟩, rfl⟩
    · rintro ⟨_, _, ⟨rfl, rfl⟩, rfl⟩
      rfl

theorem ofSettings_of_empty (hwords : CommandWords.split? settings.builderLine = some []) :
    ofSettings settings = .error (.builderLine settings.builderLine .empty) := by
  rw [ofSettings_eq, Builder.ofSettings, Builder.parse, hwords]
  rfl

theorem ofSettings_of_openQuote (hwords : CommandWords.split? settings.builderLine = none) :
    ofSettings settings = .error (.builderLine settings.builderLine .openQuote) := by
  rw [ofSettings_eq, Builder.ofSettings, Builder.parse, hwords]
  rfl

end Publisher

/-- A publisher can be configured exactly if the first factory can. -/
theorem CommandLine.configured_eq (settings : Settings) :
    configured settings = (Publisher.ofSettings settings).mapError
      (errorText ["Failed to configure the artifact builder"]) := by
  rw [configured, Publisher.ofSettings]
  cases hbuilders : BuilderFactory.ofSettings settings with
  | error failure => rfl
  | ok builders =>
      rw [ListFactory.ofSettings_of_builders hbuilders]
      rfl

theorem CommandLine.configured_of_fresh {settings : Settings} {publisher : Publisher}
    (hfresh : Publisher.ofSettings settings = .ok publisher) :
    configured settings = .ok publisher := by
  rw [configured_eq, hfresh]
  rfl

/-! ## The steps of a whole run -/

def Query.step (query : Query) : RunStep :=
  ⟨({} : VersionControl).command query, fun cause => .metadata ⟨query, cause⟩⟩

def querySteps (settings : Settings) : List RunStep :=
  (if settings.commit.isSome then [] else [Query.head.step]) ++ [Query.tagsAtHead.step]

/-- What it means for a run that its metadata could not be collected. -/
def queryFailure? : Except QueryFailure Metadata → Option Failure
  | .ok _ => none
  | .error failure => some (.metadata failure)

theorem Collector.Dialogue.taken {settings : Settings} {shows : Instant → Prop}
    {asked : List Exchange} {outcome : Except QueryFailure Metadata}
    (hdialogue : (Collector.ofSettings settings).Dialogue shows asked outcome) :
    RunStep.Taken (querySteps settings) asked (queryFailure? outcome) := by
  have hknown {known : List Exchange} {commit : String}
      (hcommit : (Collector.ofSettings settings).KnowsCommit known commit) :
      RunStep.Taken (if settings.commit.isSome then [] else [Query.head.step]) known none := by
    cases hcommit with
    | given hgiven =>
        have hcommit : settings.commit = some commit := hgiven
        simpa [hcommit] using RunStep.Taken.nil
    | asked hgiven head =>
        have hcommit : settings.commit = none := hgiven
        simpa [hcommit] using .succeeded Query.head.step head .nil
  cases hdialogue with
  | headFailed hgiven cause =>
      have hcommit : settings.commit = none := hgiven
      simpa [querySteps, hcommit] using
        .failed Query.head.step [Query.tagsAtHead.step] cause
  | tagsFailed hcommit cause =>
      exact (hknown hcommit).append (.failed Query.tagsAtHead.step [] cause)
  | collected hcommit output hnow =>
      exact (hknown hcommit).append (.succeeded Query.tagsAtHead.step output .nil)

namespace Publisher

variable {settings : Settings} {publisher : Publisher} {options : PublishOptions}

def steps (settings : Settings) (builder : Builder) (options : PublishOptions)
    (metadata : Metadata) : List RunStep :=
  querySteps settings ++ buildSteps (.under settings builder) ⟨builder⟩ options
    (BuildConfig.assemble settings metadata)

/-- How a run ends none of whose steps failed, with the report if there is one. -/
def Ended (settings : Settings) (builder : Builder) (options : PublishOptions)
    (metadata : Metadata) (ran : List Exchange) (result : Except Failure Report) : Prop :=
  ∃ built labels runId timings,
    Concluded (.under settings builder) ⟨builder⟩ options
      (BuildConfig.assemble settings metadata) ran built labels ∧
    timings.labels = labels ++ ["TOTAL"] ∧
    result = built.map fun outcome => outcome.report runId metadata timings

theorem Concluded.after {builders : BuilderFactory} {lists : ListFactory} {config : BuildConfig}
    {ran : List Exchange} {result : Except Failure BuildOutcome} {labels : List String}
    (hconcluded : Concluded builders lists options config ran result labels)
    (earlier : List Exchange) :
    Concluded builders lists options config (earlier ++ ran) result labels := by
  cases hconcluded with
  | unbuilt hbuild => exact .unbuilt hbuild
  | unplaced hbuild hlocation => exact .unplaced hbuild hlocation
  | unlisted hbuild hlocation hlist => exact .unlisted hbuild hlocation hlist
  | listed hbuild hlocation hlist hran hvalue =>
      rw [hran, ← List.append_assoc]
      exact .listed hbuild hlocation hlist rfl hvalue
  | unreadable hbuild hlocation hlist hran hvalue =>
      rw [hran, ← List.append_assoc]
      exact .unreadable hbuild hlocation hlist rfl hvalue

/-- A fresh publisher takes the steps of a run until one fails; if none does, the run is ended. -/
theorem fresh_traces {result : Except Failure Report × Publisher}
    (hfresh : ofSettings settings = .ok publisher)
    (htrace : (publisher.publish options).Traces outside effects result) (state : σ) :
    ∃ now, outside.Shows now ∧
      let metadata := metadataFrom settings (exchangesOf effects) now
      RunStep.Course (steps settings publisher.builders.builder options metadata)
        (exchangesOf effects) result.1
        (Ended settings publisher.builders.builder options metadata (exchangesOf effects)
          result.1) := by
  obtain ⟨program, leading, -, rfl⟩ := ofSettings_eq_ok_iff.1 hfresh
  obtain ⟨asked, collected, later, hcollect, -, hran, -, hrest⟩ := publish_traces htrace
  obtain ⟨-, hdialogue⟩ := Collector.collect_traces hcollect
  have htaken := Collector.Dialogue.taken hdialogue
  rcases hrest with ⟨failure, hfailure, rfl, hresult⟩ | ⟨metadata, runId, start, hmetadata, hrun⟩
  · -- the clock has not been read, so that any reading will do
    refine ⟨_, ⟨state, rfl⟩, .inl ⟨.metadata failure, hresult, ?_⟩⟩
    rw [hfailure] at htaken
    simpa [hran, steps] using htaken.append_of_failed _
  · rw [hmetadata] at htaken hdialogue
    obtain ⟨now, hnow, hanswers⟩ := hdialogue.eq_metadataFrom (exchangesOf later)
    refine ⟨now, hnow, ?_⟩
    rw [hran, ← hanswers]
    obtain ⟨inner, built, timings, hbuild, hinner, -, hlabels, hresult⟩ :=
      runWith_traces rfl hrun
    rw [hinner, hresult]
    rcases build_traces hbuild with ⟨failure, hfailure, hsteps⟩ | ⟨hsteps, hconcluded⟩
    · refine .inl ⟨failure, by rw [hfailure]; rfl, htaken.append hsteps⟩
    · exact .inr ⟨htaken.append hsteps, built.1, built.2.labels, runId, timings,
        hconcluded.after _, hlabels, rfl⟩

end Publisher

/-! ## The commands -/

/-- Commands are run in order until one fails, which is the last. -/
inductive CutAtFailure : List Child.Command → List Exchange → Prop
  | nil : CutAtFailure [] []
  | failed (command : Child.Command) (later : List Child.Command) (cause : Child.Failure) :
      CutAtFailure (command :: later) [(command, .error cause)]
  | succeeded (command : Child.Command) (output : String) {later : List Child.Command}
      {ran : List Exchange} (hlater : CutAtFailure later ran) :
      CutAtFailure (command :: later) ((command, .ok output) :: ran)

namespace CutAtFailure

variable {commands : List Child.Command} {ran : List Exchange}

theorem mem {exchange : Exchange} (hcut : CutAtFailure commands ran) (hmem : exchange ∈ ran) :
    exchange.1 ∈ commands := by
  induction hcut with
  | nil => cases hmem
  | failed command later cause =>
      rw [List.mem_singleton.1 hmem]
      exact List.mem_cons_self
  | succeeded command output _ ih =>
      rcases List.mem_cons.1 hmem with rfl | hlater
      · exact List.mem_cons_self
      · exact List.mem_cons_of_mem _ (ih hlater)

/-- A command is run if none of those before it failed. -/
theorem reached {front later : List Child.Command} {command : Child.Command}
    (hcut : CutAtFailure (front ++ command :: later) ran)
    (hfront : ∀ earlier ∈ front, ∀ cause, (earlier, .error cause) ∉ ran) :
    ∃ outcome, (command, outcome) ∈ ran := by
  induction front generalizing ran with
  | nil =>
      cases hcut with
      | failed _ _ cause => exact ⟨.error cause, List.mem_cons_self⟩
      | succeeded _ output => exact ⟨.ok output, List.mem_cons_self⟩
  | cons first front ih =>
      cases hcut with
      | failed _ _ cause =>
          exact absurd List.mem_cons_self (hfront first List.mem_cons_self cause)
      | succeeded _ output hlater =>
          obtain ⟨outcome, hmem⟩ := ih hlater fun earlier hearlier cause hfailed =>
            hfront earlier (List.mem_cons_of_mem _ hearlier) cause (List.mem_cons_of_mem _ hfailed)
          exact ⟨outcome, List.mem_cons_of_mem _ hmem⟩

end CutAtFailure

theorem RunStep.Taken.cut {steps : List RunStep} {ran : List Exchange} {failure : Option Failure}
    (htaken : Taken steps ran failure) : CutAtFailure (steps.map command) ran := by
  induction htaken with
  | nil => exact .nil
  | failed step later cause => exact .failed step.command _ cause
  | succeeded step output _ ih => exact .succeeded step.command output ih

def publishingCommand (program : String) (leading : List String) (config : BuildConfig) :
    Child.Command :=
  { program
    arguments := leading ++ ["publish", "--config", config.json.compact] }

def listArguments (location : ArtifactLocation) : List String :=
  ["--type", "task-scripts", "--endpoint", location.endpoint, "--bucket", location.bucket,
    "--prefix", location.folder]

def scanCommand (program : String) (leading : List String) (location : ArtifactLocation) :
    Child.Command :=
  { program, arguments := leading ++ ["list", "scan"] ++ listArguments location }

def readCommand (program : String) (leading : List String) (location : ArtifactLocation) :
    Child.Command :=
  { program, arguments := leading ++ ["list", "read"] ++ listArguments location, captures := true }

/-- The place in storage under given settings, if a bucket is set. -/
def Settings.place? (settings : Settings) : Option ArtifactLocation :=
  settings.bucket.map fun bucket =>
    { endpoint := settings.endpoint.getD "s3.amazonaws.com"
      bucket
      folder := settings.folder.getD "" }

/-- All commands of a run: the questions to version control, and those of the build if there is to
be one and its place is known. -/
def canonicalCommands (settings : Settings) (program : String) (leading : List String)
    (options : PublishOptions) (config : BuildConfig) : List Child.Command :=
  (if settings.commit.isSome then [] else [headQuestion])
    ++ [tagsQuestion]
    ++ match options.build, settings.place? with
      | true, some location =>
        (if options.publish then [publishingCommand program leading config] else [])
          ++ if options.list then
            [scanCommand program leading location, readCommand program leading location]
          else []
      | _, _ => []

theorem Settings.bucket_isSome {settings : Settings} {location : ArtifactLocation}
    (hplace : settings.place? = some location) : settings.bucket.isSome := by
  obtain ⟨bucket, hbucket, -⟩ := Option.map_eq_some_iff.1 hplace
  rw [hbucket, Option.isSome_some]

namespace BuilderFactory

variable {settings : Settings} {builder : Builder}

theorem location?_under_eq_error (hbucket : settings.bucket = none) :
    (under settings builder).location? = .error (.missingSetting "ARTIFACT_BUCKET") := by
  simp only [location?, under, hbucket]

theorem location?_under_eq_ok_iff {location : ArtifactLocation} :
    (under settings builder).location? = .ok location ↔ settings.place? = some location := by
  simp only [location?, under, Settings.place?]
  cases settings.bucket with
  | none => simp
  | some bucket => simp [Settings.storageEndpoint]

end BuilderFactory

namespace Builder

theorem publishCommand_eq (builder : Builder) (config : BuildConfig) :
    builder.publishCommand config = publishingCommand builder.program builder.leading config := rfl

theorem listCommand_scan (builder : Builder) (location : ArtifactLocation) :
    builder.listCommand .scan location = scanCommand builder.program builder.leading location := by
  simp [listCommand, scanCommand, listArguments, ListOperation.name, ArtifactKind.name]

theorem listCommand_read (builder : Builder) (location : ArtifactLocation) :
    builder.listCommand .read location = readCommand builder.program builder.leading location := by
  simp [listCommand, readCommand, listArguments, ListOperation.name, ArtifactKind.name]

end Builder

namespace Publisher

/-- The steps of a run are those of its commands. -/
theorem map_command_steps (settings : Settings) (builder : Builder) (options : PublishOptions)
    (metadata : Metadata) :
    (steps settings builder options metadata).map RunStep.command =
      canonicalCommands settings builder.program builder.leading options
        (BuildConfig.assemble settings metadata) := by
  have hquestions : (querySteps settings).map RunStep.command =
      (if settings.commit.isSome then [] else [headQuestion]) ++ [tagsQuestion] := by
    cases hcommit : settings.commit with
    | none => simp [querySteps, hcommit, Query.step, VersionControl.command, Query.arguments,
        headQuestion, tagsQuestion]
    | some commit => simp [querySteps, hcommit, Query.step, VersionControl.command,
        Query.arguments, tagsQuestion]
  rw [steps, List.map_append, hquestions, canonicalCommands]
  congr 1
  cases hbuild : options.build with
  | false => simp [buildSteps, hbuild]
  | true =>
      cases hplace : settings.place? with
      | none =>
          have hbucket : settings.bucket = none := by simpa [Settings.place?] using hplace
          simp [buildSteps, hbuild, BuilderFactory.location?_under_eq_error hbucket]
      | some location =>
          rw [buildSteps, hbuild, BuilderFactory.location?_under_eq_ok_iff.2 hplace]
          cases options.publish <;> cases options.list <;>
            simp [BuilderFactory.under, Builder.publishing, Builder.listSteps, Builder.listing,
              Builder.publishCommand_eq, Builder.listCommand_scan, Builder.listCommand_read]

end Publisher

namespace CommandLine

/-- An invocation to publish runs what its publisher runs. -/
theorem publish_traces {settings : Settings} {options : PublishOptions} {publisher : Publisher}
    {result : Except String Unit} (hfresh : Publisher.ofSettings settings = .ok publisher)
    (htrace : (publish settings options).Traces outside effects result) :
    ∃ inner report, (publisher.publish options).Traces outside inner report ∧
      exchangesOf effects = exchangesOf inner := by
  rw [publish, configured_of_fresh hfresh] at htrace
  obtain ⟨⟨outcome, kept⟩, inner, later, hinner, hrest, rfl⟩ := Plan.traces_bind.1 htrace
  refine ⟨inner, _, hinner, ?_⟩
  cases outcome with
  | error failure =>
      obtain ⟨rfl, -⟩ := Plan.traces_pure.1 hrest
      simp
  | ok report =>
      obtain ⟨_, hpure, rfl⟩ := Plan.traces_logged_bind.1 hrest
      obtain ⟨rfl, -⟩ := Plan.traces_pure.1 hpure
      simp [Effect.exchange?]

/-- What an invocation comes to that cannot make a publisher; the world is left as it was. -/
def unconfigured (failure : Failure) (state : σ) : Performance (Except String Unit) σ :=
  ⟨.error (errorText ["Failed to configure the artifact builder"] failure), [], state⟩

theorem publish_unconfigured {settings : Settings} {failure : Failure}
    (hfailure : Publisher.ofSettings settings = .error failure) (options : PublishOptions)
    (state : σ) :
    (publish settings options).perform outside state = unconfigured failure state := by
  rw [publish, configured_eq, hfailure]
  rfl

/-- Where the line of the artifact builder names a program, the commands are the canonical ones up
to the first that fails. -/
theorem publish_cut {settings : Settings} {program : String} {leading : List String}
    (hwords : CommandWords.split? settings.builderLine = some (program :: leading))
    (options : PublishOptions) (outside : Outside σ) (state : σ) :
    let ran := exchangesOf ((publish settings options).perform outside state).effects
    ∃ now, outside.Shows now ∧
      CutAtFailure
        (canonicalCommands settings program leading options
          (BuildConfig.assemble settings (metadataFrom settings ran now))) ran := by
  intro ran
  have hfresh := Publisher.ofSettings_eq_ok_iff.2 ⟨program, leading, hwords, rfl⟩
  obtain ⟨inner, report, hinner, hran⟩ :=
    publish_traces hfresh (Plan.perform_traces outside _ state)
  obtain ⟨now, hnow, hcourse⟩ := Publisher.fresh_traces hfresh hinner state
  refine ⟨now, hnow, ?_⟩
  rw [show ran = exchangesOf inner from hran,
    ← Publisher.map_command_steps settings ⟨program, leading⟩]
  rcases hcourse with ⟨failure, -, htaken⟩ | ⟨htaken, -⟩
  · exact htaken.cut
  · exact htaken.cut

/-- The commands of an invocation to publish are the canonical ones up to the first that fails,
whatever comes of them.  If the command line of the artifact builder has no program, or a quote in
it is not closed, nothing is run at all. -/
theorem publish_runs_canonical_commands (outside : Outside σ) (settings : Settings)
    (options : PublishOptions) (state : σ) :
    let performance := (publish settings options).perform outside state
    let ran := exchangesOf performance.effects
    commandsOf performance.effects = ran.map Prod.fst ∧
      match CommandWords.split? settings.builderLine with
      | some (program :: leading) =>
        ∃ now, outside.Shows now ∧
          CutAtFailure
            (canonicalCommands settings program leading options
              (BuildConfig.assemble settings (metadataFrom settings ran now))) ran
      | some [] => performance = unconfigured (.builderLine settings.builderLine .empty) state
      | none =>
        performance = unconfigured (.builderLine settings.builderLine .openQuote) state := by
  intro performance ran
  refine ⟨commandsOf_eq_map_exchangesOf _, ?_⟩
  split
  · next program leading hwords => exact publish_cut hwords options outside state
  · next hwords =>
      exact publish_unconfigured (Publisher.ofSettings_of_empty hwords) options state
  · next hwords =>
      exact publish_unconfigured (Publisher.ofSettings_of_openQuote hwords) options state

end CommandLine

end ArtifactRelease
