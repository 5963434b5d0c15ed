import ReleasePipeline.Hosting.Error
import ReleasePipeline.Release.Hosted

/-!
# `ReleasePipeline.Hosting.Host`: what is asked of a release host

Publishing needs four things of a host: to find the release that carries a tag, to make a
release, to add a file to one, and to delete one. Each may fail.
-/

set_option autoImplicit false

namespace ReleasePipeline

/-- A host of releases. -/
structure ReleaseHost (m : Type → Type) where
  find : String → m (Except HostError (Option HostedRelease))
  create : NewRelease → m (Except HostError HostedRelease)
  upload : HostedRelease → String → ByteArray → m (Except HostError HostedAsset)
  delete : UInt64 → m (Except HostError Unit)

end ReleasePipeline
