import ReleasePipeline.Config
import ReleasePipeline.Time.Instant

/-!
# `ReleasePipeline.Release.Descriptor`: what is to be released, and what was

All releases of a pipeline carry one tag and replace each other. A release is named after its
commit and the second in which it was made.
-/

set_option autoImplicit false

namespace ReleasePipeline

/-- What is to be released. -/
structure ReleaseDescriptor where
  tag : String
  name : String
  draft : Bool
  /-- Whether a release that carries the tag already is to be replaced. -/
  overwrite : Bool
  fileGlob : String
  deriving DecidableEq, Repr

/-- The tag of every release. -/
def previewTag : String := "preview"

/-- The name of the release of a commit. -/
def releaseName (commit : String) (now : Instant) : String :=
  commit ++ String.ofList ('@' :: now.text)

namespace ReleaseDescriptor

/-- What is to be released of a commit. -/
def compute (config : Config) (commit : String) (now : Instant) : ReleaseDescriptor where
  tag := previewTag
  name := releaseName commit now
  draft := true
  overwrite := true
  fileGlob := config.artifactGlob

instance : JsonForm ReleaseDescriptor where
  toJson descriptor := .obj
    [("tag", toJson descriptor.tag), ("name", toJson descriptor.name),
     ("draft", toJson descriptor.draft), ("overwrite", toJson descriptor.overwrite),
     ("file_glob", toJson descriptor.fileGlob)]
  ofReading := Fields.record <|
    ReleaseDescriptor.mk <$> .required "tag" <*> .required "name" <*> .required "draft" <*>
      .required "overwrite" <*> .required "file_glob"

end ReleaseDescriptor

/-- What was released. -/
structure PublishedRelease where
  id : UInt64
  tag : String
  name : String
  url : String
  /-- The names of the uploaded files. -/
  assets : List String
  /-- The release that this one replaced. -/
  replaced : Option UInt64
  deriving DecidableEq

namespace PublishedRelease

instance : JsonForm PublishedRelease where
  toJson release := .obj
    [("id", toJson release.id), ("tag", toJson release.tag), ("name", toJson release.name),
     ("url", toJson release.url), ("assets", toJson release.assets),
     ("replaced", toJson release.replaced)]
  ofReading := Fields.record <|
    PublishedRelease.mk <$> .required "id" <*> .required "tag" <*> .required "name" <*>
      .required "url" <*> .required "assets" <*> .optional "replaced"

end PublishedRelease
end ReleasePipeline
