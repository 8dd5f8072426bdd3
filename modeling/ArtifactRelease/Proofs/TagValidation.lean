import ArtifactRelease.CommandLine.Run
import ArtifactRelease.Proofs.Traces
import ArtifactRelease.Proofs.VersionSpelling

/-!
# Validating a tag

A new tag is compared, as a version, with every listed tag that names one.  A version has one
spelling, so that this is a comparison of texts: the listed lines only count for the version texts
that they spell, whatever the padding, the endings, the order and the lines between them.
-/

namespace ArtifactRelease

open ArtifactRelease.Text

variable {σ : Type}

/-- `git tag` in the current directory. -/
def allTagsQuestion : Child.Command :=
  { program := "git", arguments := ["tag"], captures := true }

/-- The versions that are kept for pull requests. -/
def Version.Reserved (version : Version) : Prop :=
  version.major = 0 ∧ version.minor = 0

instance (version : Version) : Decidable version.Reserved :=
  inferInstanceAs (Decidable (_ ∧ _))

namespace ReleaseTag

variable {tag : String} {release : ReleaseTag}

/-- Some line of the output is the text of the tag, blanks and one `v` in front apart. -/
def Taken (output tag : String) : Prop :=
  ∃ line ∈ pieces '\n' output, bare (trimmed line) = bare (trimmed tag)

instance (output tag : String) : Decidable (Taken output tag) :=
  inferInstanceAs (Decidable (∃ line ∈ pieces '\n' output, _))

def Lists (output text : String) : Prop :=
  ∃ line ∈ pieces '\n' output, Spells line text

/-! ## The listed versions -/

theorem trimmed_trimmed (line : String) : trimmed (trimmed line) = trimmed line := by
  rw [trimmed, trimmed, String.toList_ofList, trim_eq_self (trim_unpadded _)]

theorem parse_eq_ok_iff :
    parse tag = .ok release ↔
      release.raw = trimmed tag ∧ Version.parse (bare (trimmed tag)) = .ok release.version := by
  cases hparse : Version.parse (bare (trimmed tag)) with
  | error reason => simp [parse_of_error hparse]
  | ok version =>
      obtain ⟨raw, parsed⟩ := release
      simp [parse_of_ok hparse, eq_comm]

theorem isSpelling_of_parse (hrelease : parse tag = .ok release) :
    Version.IsSpelling (bare (trimmed tag)).toList := by
  rw [← Version.parse_isOk_iff, (parse_eq_ok_iff.1 hrelease).2]
  rfl

/-- A listed tag names the version of the tag exactly if it is the same text. -/
theorem versionOf?_eq_some_iff (hrelease : parse tag = .ok release) (other : String) :
    versionOf? other = some release.version ↔ bare (trimmed other) = bare (trimmed tag) := by
  have htext := Version.parse_eq_ok_iff.1 (parse_eq_ok_iff.1 hrelease).2
  have hoption : versionOf? other = some release.version ↔
      Version.parse (bare (trimmed other)) = .ok release.version := by
    rw [versionOf?]
    cases Version.parse (bare (trimmed other)) <;> simp [Except.toOption]
  rw [hoption, Version.parse_eq_ok_iff, ← htext.2]
  exact ⟨fun hother => hother.2.symm, fun hother => ⟨htext.1, hother.symm⟩⟩

/-- Some tag that was read off the output names the version exactly if a line is the same text. -/
theorem any_listedTags_iff (hrelease : parse tag = .ok release) (output : String) :
    ((listedTags output).any fun other => versionOf? other = some release.version) ↔
      Taken output tag := by
  simp only [listedTags_eq, List.any_eq_true, List.mem_filter, List.mem_map, decide_eq_true_eq,
    versionOf?_eq_some_iff hrelease]
  constructor
  · rintro ⟨_, ⟨⟨line, hline, rfl⟩, -⟩, hsame⟩
    rw [trimmed_trimmed] at hsame
    exact ⟨line, hline, hsame⟩
  · rintro ⟨line, hline, hsame⟩
    refine ⟨trimmed line, ⟨⟨line, hline, rfl⟩, ?_⟩, by rw [trimmed_trimmed, hsame]⟩
    -- nothing at all would be left of a blank line, and that is no version
    obtain ⟨c, rest, hchars, -⟩ := (isSpelling_of_parse hrelease).head_isDigit
    rw [Bool.not_eq_true', ← Bool.not_eq_true, String.isEmpty_iff]
    intro hempty
    rw [← hsame, hempty] at hchars
    cases hchars

theorem taken_iff_lists (hrelease : parse tag = .ok release) (output : String) :
    Taken output tag ↔ Lists output (bare (trimmed tag)) := by
  simp only [Taken, Lists, spells_iff (isSpelling_of_parse hrelease)]

theorem validate_listedTags (hrelease : parse tag = .ok release) (output : String) :
    release.validate (listedTags output) =
      if Taken output tag then .error (.alreadyExists release.version)
      else if release.version.Reserved then .error (.reservedForPullRequest release.version)
      else .ok () := by
  rw [validate]
  simp only [any_listedTags_iff hrelease]
  rfl

end ReleaseTag

namespace VersionControl

/-- A question is one command, and its failure names the question. -/
theorem ask_perform (versionControl : VersionControl) (outside : Outside σ) (query : Query)
    (state : σ) :
    let command := versionControl.command query
    let ran := outside.run command state
    (versionControl.ask query).perform outside state =
      ⟨ran.1.outcome.mapError (QueryFailure.mk query),
        .logged (.querying query.text) :: ran.1.effects command, ran.2⟩ := by
  intro command ran
  have hcommand : (Plan.command command).perform outside state =
      ⟨ran.1.outcome, ran.1.effects command, ran.2⟩ := Plan.perform_command outside command state
  rw [ask, Plan.perform_bind, Plan.perform_logged, Plan.perform_bind, hcommand]
  cases ran.1.outcome <;> simp [Plan.perform_pure, Performance.after, Except.mapError]

/-- An answer that is read in some way leaves the world as the question does. -/
theorem ask_map_perform {α : Type} (versionControl : VersionControl) (outside : Outside σ)
    (query : Query) (read : String → α) (state : σ) :
    let command := versionControl.command query
    let ran := outside.run command state
    (versionControl.ask query >>= fun answer => pure (answer.map read)).perform outside state =
      ⟨(ran.1.outcome.mapError (QueryFailure.mk query)).map read,
        .logged (.querying query.text) :: ran.1.effects command, ran.2⟩ := by
  intro command ran
  rw [Plan.perform_bind, ask_perform, Plan.perform_pure, Performance.after, List.append_nil]

/-- The list of all tags is read off the output of one command. -/
theorem allTags_perform (outside : Outside σ) (state : σ) :
    let ran := outside.run allTagsQuestion state
    ({} : VersionControl).allTags.perform outside state =
      ⟨(ran.1.outcome.mapError (QueryFailure.mk .allTags)).map listedTags,
        .logged (.querying Query.allTags.text) :: ran.1.effects allTagsQuestion, ran.2⟩ :=
  ask_map_perform {} outside .allTags listedTags state

end VersionControl

namespace CommandLine

open ArtifactRelease.ReleaseTag

def textVerdict (tag : String) : Child.Outcome → Except String Unit
  | .error cause =>
    .error (errorText ["Failed to list tags"] (.versionControl ⟨.allTags, cause⟩))
  | .ok output =>
    match ReleaseTag.parse tag with
    | .error fault => .error (errorText [] (.tag fault))
    | .ok release =>
      if Taken output tag then .error (errorText [] (.tag (.alreadyExists release.version)))
      else if release.version.Reserved then
        .error (errorText [] (.tag (.reservedForPullRequest release.version)))
      else .ok ()

/-- The verdict by versions is the one by texts. -/
theorem checkTag_listedTags (tag output : String) :
    ((checkTag tag (listedTags output)).map fun _ => ()).mapError
        (fun fault => errorText [] (.tag fault)) =
      textVerdict tag (.ok output) := by
  unfold checkTag textVerdict
  cases hparse : ReleaseTag.parse tag with
  | error fault => rfl
  | ok release =>
      simp only [bind, Except.bind, validate_listedTags hparse]
      by_cases htaken : Taken output tag
      · simp [htaken, Except.map, Except.mapError]
      · by_cases hreserved : release.version.Reserved <;>
          simp [htaken, hreserved, Except.map, Except.mapError, pure, Except.pure]

theorem validateTag_perform (outside : Outside σ) (tag : String) (state : σ) :
    let outcome := (outside.run allTagsQuestion state).1.outcome
    let performance := (validateTag tag).perform outside state
    exchangesOf performance.effects = [(allTagsQuestion, outcome)] ∧
      performance.value = textVerdict tag outcome := by
  intro outcome performance
  simp only [outcome, performance, validateTag, Plan.perform_bind,
    VersionControl.allTags_perform outside state]
  obtain ⟨⟨outcome, logged⟩, later⟩ := outside.run allTagsQuestion state
  simp only [Performance.after, exchangesOf_append, exchangesOf_cons,
    Child.exchangesOf_answer_effects]
  cases outcome with
  | error cause => exact ⟨rfl, rfl⟩
  | ok output =>
      rw [← checkTag_listedTags]
      simp only [Except.mapError, Except.map]
      generalize checkTag tag (listedTags output) = checked
      cases checked with
      | error fault => exact ⟨rfl, rfl⟩
      | ok release => exact ⟨rfl, rfl⟩

/-- A tag passes if it is a version that is not reserved and that no line takes. -/
theorem textVerdict_eq_ok_iff {tag : String} {outcome : Child.Outcome} :
    textVerdict tag outcome = .ok () ↔
      ∃ output release, outcome = .ok output ∧ ReleaseTag.parse tag = .ok release ∧
        ¬release.version.Reserved ∧ ¬Taken output tag := by
  unfold textVerdict
  cases outcome with
  | error cause => simp
  | ok output =>
      cases hparse : ReleaseTag.parse tag with
      | error fault => simp
      | ok release =>
          by_cases htaken : Taken output tag
          · simp [htaken]
          · by_cases hreserved : release.version.Reserved <;> simp [htaken, hreserved]

/-- Outputs that list the same versions lead to the same verdict. -/
theorem textVerdict_congr {output other : String} (tag : String)
    (hsame : ∀ text : String, Version.IsSpelling text.toList →
      (Lists output text ↔ Lists other text)) :
    textVerdict tag (.ok output) = textVerdict tag (.ok other) := by
  unfold textVerdict
  cases hparse : ReleaseTag.parse tag with
  | error fault => rfl
  | ok release =>
      have htaken : Taken output tag ↔ Taken other tag := by
        rw [taken_iff_lists hparse, taken_iff_lists hparse, hsame _ (isSpelling_of_parse hparse)]
      simp only [htaken]

/-- A version that is listed is refused in each of its spellings. -/
theorem textVerdict_of_lists {tag respelled listed : String} {release : ReleaseTag}
    (hrelease : ReleaseTag.parse tag = .ok release)
    (hspells : Spells respelled (bare (trimmed tag)))
    (hlists : Lists listed (bare (trimmed tag))) :
    textVerdict respelled (.ok listed) =
      .error (errorText [] (.tag (.alreadyExists release.version))) := by
  have hbare := (spells_iff (isSpelling_of_parse hrelease)).1 hspells
  have hversion := (parse_eq_ok_iff.1 hrelease).2
  rw [← hbare] at hversion
  have hrespelled : ReleaseTag.parse respelled = .ok ⟨trimmed respelled, release.version⟩ :=
    parse_of_ok hversion
  have htaken : Taken listed respelled := by
    rw [taken_iff_lists hrespelled, hbare]
    exact hlists
  unfold textVerdict
  simp only [hrespelled, htaken, if_true]

/-- An invocation to validate a tag runs `git tag` and compares texts: the tag passes if it is a
version that is not reserved for pull requests and that is not the text of any listed line, blanks
and one `v` in front apart.  A listed version is refused as such before anything else.  The output
only counts for the versions that its lines spell, and once a version is listed, every spelling of
it is refused. -/
theorem validateTag_compares_texts (outside : Outside σ) (tag : String) (state : σ) :
    let outcome := (outside.run allTagsQuestion state).1.outcome
    let performance := (validateTag tag).perform outside state
    exchangesOf performance.effects = [(allTagsQuestion, outcome)] ∧
    (performance.value = .ok () ↔
      ∃ output release, outcome = .ok output ∧ ReleaseTag.parse tag = .ok release ∧
        ¬release.version.Reserved ∧
        ∀ line ∈ pieces '\n' output, bare (trimmed line) ≠ bare (trimmed tag)) ∧
    performance.value = textVerdict tag outcome ∧
    (∀ output, outcome = .ok output →
      ∀ (other : Outside σ) (later : σ) (changed : String),
        (other.run allTagsQuestion later).1.outcome = .ok changed →
        (∀ text : String, Version.IsSpelling text.toList →
          (Lists output text ↔ Lists changed text)) →
        ((validateTag tag).perform other later).value = performance.value) ∧
    ∀ release, ReleaseTag.parse tag = .ok release →
      ∀ (other : Outside σ) (later : σ) (listed respelled : String),
        (other.run allTagsQuestion later).1.outcome = .ok listed →
        Lists listed (bare (trimmed tag)) → Spells respelled (bare (trimmed tag)) →
        ((validateTag respelled).perform other later).value =
          .error (errorText [] (.tag (.alreadyExists release.version))) := by
  intro outcome performance
  obtain ⟨hran, hvalue⟩ := validateTag_perform outside tag state
  refine ⟨hran, ?_, hvalue, ?_, ?_⟩
  · rw [show performance.value = textVerdict tag outcome from hvalue, textVerdict_eq_ok_iff]
    simp only [Taken, not_exists, not_and, ne_eq]
  · intro output houtput other later changed hchanged hsame
    rw [(validateTag_perform other tag later).2, hchanged,
      show performance.value = textVerdict tag outcome from hvalue, houtput]
    exact (textVerdict_congr tag hsame).symm
  · intro release hrelease other later listed respelled hlisted hlists hspells
    rw [(validateTag_perform other respelled later).2, hlisted]
    exact textVerdict_of_lists hrelease hspells hlists

end CommandLine

end ArtifactRelease
