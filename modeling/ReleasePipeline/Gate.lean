import ReleasePipeline.Trigger

/-!
# `ReleasePipeline.Gate`: what a finished pipeline may do

A tagged commit is not built at all. Nothing is published unless every variant succeeded, and
then only from the branch that is released.
-/

set_option autoImplicit false

namespace ReleasePipeline

/-- What is to happen with the results of a pipeline. -/
inductive PublishDecision where
  | skipPipeline
  | variantsFailed
  | notOnReleaseBranch
  | publish
  deriving DecidableEq, Repr

/-- The name of a decision. -/
def PublishDecision.name : PublishDecision → String
  | .skipPipeline => "skip_pipeline"
  | .variantsFailed => "variants_failed"
  | .notOnReleaseBranch => "not_on_release_branch"
  | .publish => "publish"

namespace Gate

/-- Whether a trigger starts the pipeline. -/
def isEnabled (trigger : Trigger) : Bool :=
  trigger.tagBlank

/-- Whether a trigger is on the branch that is released. -/
def isOnTarget (trigger : Trigger) (targetBranch : String) : Bool :=
  trigger.branch == targetBranch

/-- What is to happen with the results of a pipeline. -/
def decide (tagBlank allSucceeded onTarget : Bool) : PublishDecision :=
  if !tagBlank then .skipPipeline
  else if !allSucceeded then .variantsFailed
  else if !onTarget then .notOnReleaseBranch
  else .publish

/-- Whether the results are to be published. -/
def shouldPublish (tagBlank allSucceeded onTarget : Bool) : Bool :=
  decide tagBlank allSucceeded onTarget == .publish

end Gate
end ReleasePipeline
