import ReleasePipeline.Config

/-!
# `ReleasePipeline.Artifact`: what a variant run produces

The artifact of a variant is one file in the artifact directory, named after the program and the
operating system.
-/

set_option autoImplicit false

namespace ReleasePipeline

/-- The file that the run of a variant produces. -/
structure Artifact where
  os : String
  path : Path
  fileName : String
  deriving DecidableEq, Repr

namespace Artifact

/-- The artifact of a variant. -/
def ofVariant (config : Config) (variant : Variant) : Artifact where
  os := variant.os
  path := config.artifactPath.join (config.artifactName variant)
  fileName := config.artifactName variant

instance : JsonForm Artifact where
  toJson artifact := .obj
    [("os", toJson artifact.os), ("path", toJson artifact.path),
     ("file_name", toJson artifact.fileName)]
  ofReading := Fields.record <|
    Artifact.mk <$> .required "os" <*> .required "path" <*> .required "file_name"

end Artifact
end ReleasePipeline
