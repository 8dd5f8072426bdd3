import ArtifactRelease.Artifact
import ArtifactRelease.Metadata.Reading
import ArtifactRelease.Metadata.Rendering
import ArtifactRelease.Proofs.JsonRecords

/-!
# Metadata read back from JSON

Build metadata and artifact locations are read back from every spelling of the JSON that they are
written as, in both layouts.  An optional field that is left out is read as missing, and what is in
a text, a name or a tag does not matter.
-/

namespace ArtifactRelease

open Json Json.Value

variable {δ : Type}

theorem Json.Reads.into {α : Type} {reader : Reader α} {value : Value} {result : α}
    (hreads : Reads reader value result) (put : α → δ) :
    Reads (reader.into put) value (put result) := by
  intro gap text rest hgap htext hrest
  simp only [Reader.into, hreads gap text rest hgap htext hrest]
  rfl

theorem reads_readOptionalText (text : String) :
    Reads readOptionalText (.string text) (some text) :=
  (reads_readText "a string" text).optional rfl (by decide)

namespace Json.Layout

variable {layout : Layout δ} {draft : δ} {name : String} {required : Bool} {filled : δ → Bool}
  {fill : δ → Reader δ}

theorem fills_field (key : String) {next : δ} {value : Value}
    (hslot : layout.slots.find? (·.name = key) = some ⟨name, required, filled, fill⟩)
    (hempty : filled draft = false) (hreads : Reads (fill draft) value next) :
    layout.Fills draft [(key, value)] next :=
  .cons hslot hempty hreads (.nil next)

/-- A text that may be missing is written if it is there, and fills its slot then. -/
theorem fills_optionalField (key : String) (next : Option String → δ)
    {put : δ → Option String → δ}
    (hslot : layout.slots.find? (·.name = key) =
      some ⟨name, required, filled, fun draft => readOptionalText.into (put draft)⟩)
    (hempty : filled draft = false) (hnone : next none = draft)
    (hsome : ∀ text, put draft (some text) = next (some text)) (text : Option String) :
    layout.Fills draft (optionalField key text) (next text) := by
  cases text with
  | none =>
      rw [hnone]
      exact .nil draft
  | some text =>
      rw [← hsome]
      exact fills_field key hslot hempty ((reads_readOptionalText text).into (put draft))

end Json.Layout

/-! ## Runs -/

namespace RunInfo

/-- The draft in which just what is there is filled in. -/
def draft (info : RunInfo) : Draft :=
  ⟨info.id.map some, info.number.map some, info.attempt.map some⟩

theorem finish_draft (info : RunInfo) : info.draft.finish = info := by
  rcases info with ⟨_ | _, _ | _, _ | _⟩ <;> rfl

theorem reads_read (info : RunInfo) : Reads read info.json info := by
  have hid := layout.fills_optionalField "id" (fun id => { id := id.map some }) rfl rfl rfl
    (fun _ => rfl) info.id
  have hnumber := layout.fills_optionalField "number"
    (fun number => { id := info.id.map some, number := number.map some }) rfl rfl rfl
    (fun _ => rfl) info.number
  have hattempt := layout.fills_optionalField "attempt"
    (fun attempt => ⟨info.id.map some, info.number.map some, attempt.map some⟩) rfl rfl rfl
    (fun _ => rfl) info.attempt
  have hfields : layout.Fills layout.blank _ info.draft := (hid.append hnumber).append hattempt
  have hread := (hfields.reads (by simp [Layout.Complete, layout])).into Draft.finish
  rw [finish_draft] at hread
  exact hread

end RunInfo

namespace RunRecord

def draft (record : RunRecord) : Draft :=
  ⟨some record.action, record.job.map some, some record.run, record.repository.map some,
    record.sha.map some⟩

theorem finish_draft (record : RunRecord) : record.draft.finish = record := by
  rcases record with ⟨_, _ | _, _, _ | _, _ | _⟩ <;> rfl

theorem reads_read (record : RunRecord) : Reads read record.json record := by
  have haction : layout.Fills layout.blank [("action", .bool record.action)]
      { action := some record.action } :=
    layout.fills_field "action" rfl rfl ((reads_readBool record.action).into _)
  have hjob := layout.fills_optionalField "job"
    (fun job => { action := some record.action, job := job.map some }) rfl rfl rfl
    (fun _ => rfl) record.job
  have hrun : layout.Fills { action := some record.action, job := record.job.map some }
      [("run", record.run.json)]
      { action := some record.action, job := record.job.map some, run := some record.run } :=
    layout.fills_field "run" rfl rfl (record.run.reads_read.into _)
  have hrepository := layout.fills_optionalField "repository"
    (fun repository => ⟨some record.action, record.job.map some, some record.run,
      repository.map some, none⟩) rfl rfl rfl
    (fun _ => rfl) record.repository
  have hsha := layout.fills_optionalField "sha"
    (fun sha => ⟨some record.action, record.job.map some, some record.run,
      record.repository.map some, sha.map some⟩) rfl rfl rfl
    (fun _ => rfl) record.sha
  have hfields : layout.Fills layout.blank _ record.draft :=
    (((haction.append hjob).append hrun).append hrepository).append hsha
  have hread := (hfields.reads (by simp [Layout.Complete, layout, draft])).into Draft.finish
  rw [finish_draft] at hread
  exact hread

end RunRecord

/-! ## Metadata -/

namespace Metadata

def draft (metadata : Metadata) : Draft :=
  ⟨some metadata.commit, some metadata.createdAt, metadata.runRecord.map some,
    metadata.tags.map some⟩

theorem finish_draft (metadata : Metadata) : metadata.draft.finish = metadata := by
  rcases metadata with ⟨_, _, _ | _, _ | _⟩ <;> rfl

theorem reads_read (metadata : Metadata) : Reads read metadata.json metadata := by
  obtain ⟨commit, createdAt, runRecord, tags⟩ := metadata
  have hcommit : layout.Fills layout.blank [("commit", .string commit)]
      { commit := some commit } :=
    layout.fills_field "commit" rfl rfl ((reads_readText "a string" commit).into _)
  have hcreatedAt : layout.Fills { commit := some commit } [("createdAt", .string createdAt)]
      { commit := some commit, createdAt := some createdAt } :=
    layout.fills_field "createdAt" rfl rfl ((reads_readText "a string" createdAt).into _)
  have hrecord : layout.Fills { commit := some commit, createdAt := some createdAt }
      (runRecord.elim [] fun record => [("githubData", record.json)])
      ⟨some commit, some createdAt, runRecord.map some, none⟩ := by
    cases runRecord with
    | none => exact .nil _
    | some record =>
        exact layout.fills_field "githubData" rfl rfl
          ((record.reads_read.optional rfl (by decide)).into _)
  have htags : layout.Fills ⟨some commit, some createdAt, runRecord.map some, none⟩
      (tags.elim [] fun tags => [("tags", .array (tags.map .string))])
      ⟨some commit, some createdAt, runRecord.map some, tags.map some⟩ := by
    cases tags with
    | none => exact .nil _
    | some tags =>
        exact layout.fills_field "tags" rfl rfl
          (((reads_readTexts tags).optional rfl (by decide)).into _)
  have hfields : layout.Fills layout.blank _ (draft ⟨commit, createdAt, runRecord, tags⟩) :=
    ((hcommit.append hcreatedAt).append hrecord).append htags
  have hread := (hfields.reads (by simp [Layout.Complete, layout, draft])).into Draft.finish
  have hjson : json ⟨commit, createdAt, runRecord, tags⟩ =
      .object ([("commit", .string commit)] ++ [("createdAt", .string createdAt)]
        ++ (runRecord.elim [] fun record => [("githubData", record.json)])
        ++ tags.elim [] fun tags => [("tags", .array (tags.map .string))]) := by
    cases runRecord <;> cases tags <;> rfl
  rw [finish_draft] at hread
  rw [hjson]
  exact hread

end Metadata

/-! ## Locations -/

theorem ArtifactLocation.reads_layout (location : ArtifactLocation) :
    Reads layout.read location.json
      ⟨some location.endpoint, some location.bucket, some location.folder⟩ := by
  have htext (put : String → Draft) (text : String) :
      Reads ((readText "a string").into put) (.string text) (put text) :=
    (reads_readText "a string" text).into put
  have hendpoint : layout.Fills layout.blank [("endpoint", .string location.endpoint)]
      { endpoint := some location.endpoint } :=
    layout.fills_field "endpoint" rfl rfl (htext (fun endpoint => { endpoint := some endpoint }) _)
  have hbucket : layout.Fills { endpoint := some location.endpoint }
      [("bucket", .string location.bucket)]
      ⟨some location.endpoint, some location.bucket, none⟩ :=
    layout.fills_field "bucket" rfl rfl
      (htext (fun bucket => ⟨some location.endpoint, some bucket, none⟩) _)
  have hfolder : layout.Fills ⟨some location.endpoint, some location.bucket, none⟩
      [("prefix", .string location.folder)]
      ⟨some location.endpoint, some location.bucket, some location.folder⟩ :=
    layout.fills_field "prefix" rfl rfl
      (htext (fun folder => ⟨some location.endpoint, some location.bucket, some folder⟩) _)
  exact ((hendpoint.append hbucket).append hfolder).reads (by simp [Layout.Complete, layout])

/-! ## Texts -/

/-- Whatever metadata holds, it is read back from its JSON in both layouts, and so is a location
from its compact JSON. -/
theorem parse_written_json :
    (∀ metadata : Metadata,
      Metadata.parse (metadata.render .json) = .ok metadata ∧
        Metadata.parse metadata.json.compact = .ok metadata) ∧
      ∀ location : ArtifactLocation,
        ArtifactLocation.parse location.json.compact = .ok location := by
  refine ⟨fun metadata => ⟨?_, ?_⟩, fun location => ?_⟩
  · exact metadata.reads_read.readAll_pretty
  · exact metadata.reads_read.readAll_compact
  · rw [ArtifactLocation.parse, location.reads_layout.readAll_compact]
    rfl

end ArtifactRelease
