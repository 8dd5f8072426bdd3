import ArtifactRelease.Main
import ArtifactRelease.Metadata.Reading
import ArtifactRelease.Rehearsal
import ArtifactRelease.Proofs.Traces
import ArtifactRelease.Proofs.Collection
import ArtifactRelease.Proofs.SharedCollector
import ArtifactRelease.Proofs.PublishRun
import ArtifactRelease.Proofs.PublishCommands
import ArtifactRelease.Proofs.PublishOutcome
import ArtifactRelease.Proofs.WorkflowStream
import ArtifactRelease.Proofs.Lines
import ArtifactRelease.Proofs.ChildOutput
import ArtifactRelease.Proofs.Digits
import ArtifactRelease.Proofs.VersionSpelling
import ArtifactRelease.Proofs.TagValidation
import ArtifactRelease.Proofs.RunEffects
import ArtifactRelease.Proofs.RepeatedRuns
import ArtifactRelease.Proofs.ChildOutcome
import ArtifactRelease.Proofs.JsonSpelling
import ArtifactRelease.Proofs.JsonReading
import ArtifactRelease.Proofs.JsonRecords
import ArtifactRelease.Proofs.MetadataJson
import ArtifactRelease.Proofs.ConfigArgument
import ArtifactRelease.Proofs.YamlScalar
import ArtifactRelease.Proofs.YamlDocument
import ArtifactRelease.Proofs.MetadataYaml
import ArtifactRelease.Proofs.Alike
import ArtifactRelease.Proofs.PairedRuns
import ArtifactRelease.Proofs.WordGrammar
import ArtifactRelease.Proofs.QuotedWords
import ArtifactRelease.Proofs.WorkflowReading
import ArtifactRelease.Proofs.WriterFailures
import ArtifactRelease.Proofs.Noninterference
import ArtifactRelease.Proofs.JsonNesting
import ArtifactRelease.Proofs.ArtifactListReading
import ArtifactRelease.Proofs.Calendar
import ArtifactRelease.Proofs.TimestampReading
import ArtifactRelease.Proofs.TimestampOrder
import ArtifactRelease.Proofs.YamlLines
import ArtifactRelease.Proofs.TagListing
import ArtifactRelease.Proofs.SettingsReading
import ArtifactRelease.Proofs.RecordedCommit
import ArtifactRelease.Proofs.EmptyProgram
