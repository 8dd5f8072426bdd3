import ArtifactRelease.Metadata.Basic
import ArtifactRelease.Text.Blank
import ArtifactRelease.Yaml.Document

/-!
# Showing build metadata

Metadata is shown as pretty JSON or as a YAML document without the blanks at its end.
-/

namespace ArtifactRelease

inductive MetadataFormat where
  | json
  | yaml
  deriving Repr, DecidableEq

open Yaml

def Yaml.optionalEntry (key : String) : Option String → List (String × Node)
  | none => []
  | some text => [(key, .string text)]

def RunInfo.entries (info : RunInfo) : List (String × Node) :=
  optionalEntry "id" info.id ++ optionalEntry "number" info.number
    ++ optionalEntry "attempt" info.attempt

def RunRecord.entries (record : RunRecord) : List (String × Node) :=
  [("action", .bool record.action)] ++ optionalEntry "job" record.job
    ++ [("run", .mapping record.run.entries)] ++ optionalEntry "repository" record.repository
    ++ optionalEntry "sha" record.sha

def Metadata.entries (metadata : Metadata) : List (String × Node) :=
  let runRecord := match metadata.runRecord with
    | none => []
    | some record => [("githubData", Node.mapping record.entries)]
  let tags := match metadata.tags with
    | none => []
    | some tags => [("tags", Node.sequence tags)]
  [("commit", .string metadata.commit), ("createdAt", .string metadata.createdAt)]
    ++ runRecord ++ tags

def Metadata.yaml (metadata : Metadata) : String :=
  String.ofList (Text.trimEnd (document metadata.entries))

def Metadata.render (metadata : Metadata) : MetadataFormat → String
  | .json => metadata.json.pretty
  | .yaml => metadata.yaml

end ArtifactRelease
