import ReleasePipeline.Json.Record

/-!
# `ReleasePipeline.Release.Hosted`: releases as their host knows them

`NewRelease` is what a host is asked to make, `HostedRelease` what it says it has, and
`HostedAsset` one file of a release.
-/

set_option autoImplicit false

namespace ReleasePipeline

/-- A release that a host is asked to make. -/
structure NewRelease where
  tagName : String
  name : String
  draft : Bool
  prerelease : Bool
  targetCommitish : Option String
  deriving DecidableEq, Repr

namespace NewRelease

/-- The target is written only if there is one. -/
instance : JsonForm NewRelease where
  toJson release := .obj <|
    [("tag_name", toJson release.tagName), ("name", toJson release.name),
     ("draft", toJson release.draft), ("prerelease", toJson release.prerelease)] ++
    match release.targetCommitish with
    | some target => [("target_commitish", toJson target)]
    | none => []
  ofReading := Fields.record <|
    NewRelease.mk <$> .required "tag_name" <*> .required "name" <*> .required "draft" <*>
      .defaulted "prerelease" false <*> .optional "target_commitish"

end NewRelease

/-- A file of a release. -/
structure HostedAsset where
  id : UInt64
  name : String
  size : UInt64
  downloadUrl : String
  deriving DecidableEq

namespace HostedAsset

instance : JsonForm HostedAsset where
  toJson asset := .obj
    [("id", toJson asset.id), ("name", toJson asset.name), ("size", toJson asset.size),
     ("browser_download_url", toJson asset.downloadUrl)]
  ofReading := Fields.record <|
    HostedAsset.mk <$> .required "id" <*> .required "name" <*> .defaulted "size" 0 <*>
      .defaulted "browser_download_url" ""

end HostedAsset

/-- A release that a host has. -/
structure HostedRelease where
  id : UInt64
  tagName : String
  name : Option String
  draft : Bool
  htmlUrl : String
  uploadUrl : String
  assets : List HostedAsset
  deriving DecidableEq

namespace HostedRelease

/-- Where files of the release are uploaded to: the upload address without its template. -/
def uploadEndpoint (release : HostedRelease) : String :=
  String.ofList (release.uploadUrl.toList.takeWhile (· ≠ '\x7b'))

instance : JsonForm HostedRelease where
  toJson release := .obj
    [("id", toJson release.id), ("tag_name", toJson release.tagName),
     ("name", toJson release.name), ("draft", toJson release.draft),
     ("html_url", toJson release.htmlUrl), ("upload_url", toJson release.uploadUrl),
     ("assets", toJson release.assets)]
  ofReading := Fields.record <|
    HostedRelease.mk <$> .required "id" <*> .required "tag_name" <*> .defaulted "name" none <*>
      .required "draft" <*> .defaulted "html_url" "" <*> .required "upload_url" <*>
      .defaulted "assets" []

end HostedRelease
end ReleasePipeline
