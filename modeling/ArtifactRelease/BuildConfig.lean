import ArtifactRelease.Artifact
import ArtifactRelease.Metadata.Basic

/-!
# Build configuration

What the artifact builder is told: where the sources are, under which names the artifact goes, and
the metadata to record with it.
-/

namespace ArtifactRelease

structure BuildConfig where
  source : String
  artifactNamespace : Option String
  slug : Option String
  version : Option String
  kind : ArtifactKind
  pushesToRegistry : Bool
  metadata : Metadata
  updatesList : Bool
  savesLog : Bool
  sshKey : String
  deriving Repr, DecidableEq

namespace BuildConfig

def assemble (settings : Settings) (metadata : Metadata) : BuildConfig :=
  { source := "."
    artifactNamespace := settings.artifactNamespace
    slug := settings.slug
    version := settings.version
    kind := .taskScripts
    pushesToRegistry := settings.pushes
    metadata
    updatesList := false
    savesLog := true
    sshKey := settings.sshKey }

open Json.Value in
def json (config : BuildConfig) : Json.Value :=
  .object ([("source", .string config.source)]
    ++ optionalField "namespace" config.artifactNamespace
    ++ optionalField "slug" config.slug
    ++ optionalField "version" config.version
    ++ [("type", config.kind.json), ("pushToEcr", .bool config.pushesToRegistry),
      ("buildRecordMeta", config.metadata.json), ("shouldUpdateList", .bool config.updatesList),
      ("saveBuildLog", .bool config.savesLog), ("sshPrivateKeyPath", .string config.sshKey)])

end BuildConfig

end ArtifactRelease
