import ReleasePipeline.Publish
import ReleasePipeline.Proofs.Support.State

/-!
# `ReleasePipeline.Proofs.Publish.Reach`: where publishing leads

A publication reads files and calls the release host, and does nothing else. So whatever preorder
holds of these from one world to the next holds of the publication as well (`moves_publish`).
-/

set_option autoImplicit false

namespace ReleasePipeline.Proofs

open Publish (uploadAll discard replace release publish)

/-- Every call to a host leads from one world to a world that stands in a relation to it. -/
structure HostMoves {σ : Type} (R : σ → σ → Prop) (host : ReleaseHost (StateM σ)) : Prop where
  find : ∀ tag, Moves R (host.find tag)
  create : ∀ release, Moves R (host.create release)
  upload : ∀ release name contents, Moves R (host.upload release name contents)
  delete : ∀ id, Moves R (host.delete id)

section
variable {σ : Type} {R : σ → σ → Prop} [IsPreorder σ R] {host : ReleaseHost (StateM σ)}
  {files : Files (StateM σ)} (hhost : HostMoves R host)
include hhost

/-- Discarding a draft leads where deleting it does. -/
theorem moves_discard (draft : HostedRelease) (error : PublishError) :
    Moves R (discard host draft error) :=
  (hhost.delete _).bind fun _ => moves_pure _

/-- So does replacing a release, which may have to discard the draft. -/
theorem moves_replace (descriptor : ReleaseDescriptor) (found : Option HostedRelease)
    (draft : HostedRelease) (names : List String) :
    Moves R (replace host descriptor found draft names) := by
  cases found with
  | none => exact moves_pure _
  | some old =>
      refine (hhost.delete _).bind fun answer => ?_
      cases answer with
      | error refusal => exact moves_discard hhost draft _
      | ok _ => exact moves_pure _

variable (hread : ∀ path, Moves R (files.read path))
include hread

/-- Uploading leads where reading the files and uploading each of them do. -/
theorem moves_uploadAll (draft : HostedRelease) (selected : List Artifact) :
    Moves R (uploadAll host files draft selected) := by
  induction selected with
  | nil => exact moves_pure _
  | cons artifact rest ih =>
      refine (hread _).bind fun answer => ?_
      cases answer with
      | error error => exact moves_pure _
      | ok contents =>
          refine (hhost.upload _ _ _).bind fun answer => ?_
          cases answer with
          | error error => exact moves_pure _
          | ok asset =>
              refine ih.bind fun answer => ?_
              cases answer <;> exact moves_pure _

/-- A release leads where all its calls do. -/
theorem moves_release (descriptor : ReleaseDescriptor) (selected : List Artifact) :
    Moves R (release host files descriptor selected) := by
  refine (hhost.find _).bind fun answer => ?_
  cases answer with
  | error error => exact moves_pure _
  | ok found =>
      refine Moves.ite _ (moves_pure _) ((hhost.create _).bind fun answer => ?_)
      cases answer with
      | error error => exact moves_pure _
      | ok draft =>
          refine (moves_uploadAll hhost hread draft selected).bind fun uploaded => ?_
          cases uploaded with
          | error error => exact moves_discard hhost draft error
          | ok names => exact moves_replace hhost descriptor found draft names

/-- A publication leads where reading files and calling the host do. -/
theorem moves_publish (descriptor : ReleaseDescriptor) (artifacts : List Artifact) :
    Moves R (publish host files descriptor artifacts) := by
  unfold publish
  split
  · exact moves_pure _
  · exact moves_pure _
  · exact moves_release hhost hread descriptor _

end

end ReleasePipeline.Proofs
