import ReleasePipeline.Artifact
import ReleasePipeline.Glob
import ReleasePipeline.Hosting.Host
import ReleasePipeline.Release.Descriptor
import ReleasePipeline.Site

/-!
# `ReleasePipeline.Publish`: turning artifacts into a release

A new release is made complete before the old one goes. Only when every file is uploaded is the
release that carried the tag before deleted. If anything fails on the way, or the old release
cannot be deleted, the new one is discarded and the old one stays.

`selectArtifacts` says which artifacts belong to a release and in which order, and `publish`
does the rest.
-/

set_option autoImplicit false

namespace ReleasePipeline

/-- Why nothing was published. -/
inductive PublishError where
  | notConfigured (reason : String)
  | pattern (error : Glob.PatternError)
  | unreadable (path : Path) (error : OsError)
  | noArtifacts (glob : String)
  | releaseExists (tag : String)
  | host (error : HostError)
  deriving DecidableEq

/-- The wording of why nothing was published. -/
def PublishError.message : PublishError → String
  | .notConfigured reason => "Publishing is not configured: " ++ reason
  | .pattern error => "Invalid artifact pattern: " ++ error.message
  | .unreadable path error => "Failed to read " ++ path.text ++ ": " ++ error.message
  | .noArtifacts glob => "No artifacts matching '" ++ glob ++ "'"
  | .releaseExists tag => "Release with tag '" ++ tag ++ "' already exists"
  | .host error => error.message

/-- Publishes artifacts as a release. -/
structure Publisher (m : Type → Type) where
  publish : ReleaseDescriptor → List Artifact → m (Except PublishError PublishedRelease)

/-- The artifacts whose file names match a pattern, in the order of their names. Artifacts of one
name keep their order. -/
def selectArtifacts (artifacts : List Artifact) (pattern : String) :
    Except Glob.PatternError (List Artifact) := do
  let pattern ← Glob.Pattern.ofText pattern
  let selected := artifacts.filter fun artifact => pattern.accepts artifact.fileName
  .ok (selected.mergeSort fun a b => decide (a.fileName ≤ b.fileName))

namespace Publish

/-- The release that a host is asked to make. -/
def newRelease (descriptor : ReleaseDescriptor) : NewRelease where
  tagName := descriptor.tag
  name := descriptor.name
  draft := descriptor.draft
  prerelease := false
  targetCommitish := none

/-- What is said of a release that was published. -/
def published (descriptor : ReleaseDescriptor) (release : HostedRelease) (assets : List String)
    (replaced : Option UInt64) : PublishedRelease where
  id := release.id
  tag := release.tagName
  name := release.name.getD descriptor.name
  url := release.htmlUrl
  assets := assets
  replaced := replaced

section
variable {m : Type → Type} [Monad m]

/-- Uploads the files of artifacts until one cannot be read or uploaded. Returns the names the host
gave them. -/
def uploadAll (host : ReleaseHost m) (files : Files m) (release : HostedRelease) :
    List Artifact → m (Except PublishError (List String))
  | [] => pure (.ok [])
  | artifact :: rest => do
    match ← files.read artifact.path with
    | .error error => pure (.error (.unreadable artifact.path error))
    | .ok contents =>
      match ← host.upload release artifact.fileName contents with
      | .error error => pure (.error (.host error))
      | .ok asset =>
        match ← uploadAll host files release rest with
        | .error error => pure (.error error)
        | .ok names => pure (.ok (asset.name :: names))

/-- Deletes a release that was not completed. If that fails, nothing more can be done. -/
def discard (host : ReleaseHost m) (release : HostedRelease) (error : PublishError) :
    m (Except PublishError PublishedRelease) := do
  let _ ← host.delete release.id
  pure (.error error)

/-- Deletes the release that carried the tag before, once the new one is complete. -/
def replace (host : ReleaseHost m) (descriptor : ReleaseDescriptor)
    (existing : Option HostedRelease) (release : HostedRelease) (assets : List String) :
    m (Except PublishError PublishedRelease) :=
  match existing with
  | none => pure (.ok (published descriptor release assets none))
  | some old => do
    match ← host.delete old.id with
    | .error error => discard host release (.host error)
    | .ok () => pure (.ok (published descriptor release assets (some old.id)))

/-- Makes a release of artifacts that were selected. -/
def release (host : ReleaseHost m) (files : Files m) (descriptor : ReleaseDescriptor)
    (selected : List Artifact) : m (Except PublishError PublishedRelease) := do
  match ← host.find descriptor.tag with
  | .error error => pure (.error (.host error))
  | .ok existing =>
    -- Nothing was changed so far, so there is nothing to undo.
    if existing.isSome && !descriptor.overwrite then
      pure (.error (.releaseExists descriptor.tag))
    else do
      match ← host.create (newRelease descriptor) with
      | .error error => pure (.error (.host error))
      | .ok release =>
        -- From here on there are two releases of the tag, and every way out leaves only one.
        match ← uploadAll host files release selected with
        | .error error => discard host release error
        | .ok assets => replace host descriptor existing release assets

/-- Publishes artifacts as a release. -/
def publish (host : ReleaseHost m) (files : Files m) (descriptor : ReleaseDescriptor)
    (artifacts : List Artifact) : m (Except PublishError PublishedRelease) :=
  match selectArtifacts artifacts descriptor.fileGlob with
  | .error error => pure (.error (.pattern error))
  | .ok [] => pure (.error (.noArtifacts descriptor.fileGlob))
  | .ok selected => release host files descriptor selected

/-- A publisher that puts releases on a host. -/
def publisher (host : ReleaseHost m) (files : Files m) : Publisher m :=
  ⟨publish host files⟩

end
end Publish
end ReleasePipeline
