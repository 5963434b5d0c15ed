import ReleasePipeline.Gate
import ReleasePipeline.Outcome
import ReleasePipeline.Publish
import ReleasePipeline.ReportStore
import ReleasePipeline.Schedule

/-!
# `ReleasePipeline.Pipeline`: from a trigger to an outcome

A pipeline either runs the selected variants on this host, or aggregates the reports that runs on
several hosts left behind. Both end the same way: `conclude` looks at the reports and says what
the outcome is, or which artifacts are to be published. A run that leaves variants out never
publishes; that is left to a later aggregation.
-/

set_option autoImplicit false

namespace ReleasePipeline

/-- What the reports of all variants lead to. -/
inductive Conclusion where
  | settled (status : PipelineStatus)
  | publish (artifacts : List Artifact)
  deriving DecidableEq

/-- Why a pipeline could not be run at all. -/
inductive RunError where
  /-- More variants were to run at once than can ever be. -/
  | tooManyPlaces (asked : Nat)
  deriving DecidableEq, Repr

/-- A pipeline, ready to be run. -/
structure Pipeline (m : Type → Type) where
  config : Config
  /-- The identifiers of the variants to run, or none for all of them. -/
  selection : List String
  deferPublish : Bool
  /-- How many variants may run at once, if there is a limit. -/
  cap : Option Nat
  publisher : Option (Publisher m)
  /-- The clock that dates releases. -/
  clock : m Instant

namespace Pipeline

/-- The configured variants that a selection names, in the order of the configuration. An empty
selection names all. -/
def selectedVariants (config : Config) (selection : List String) : List Variant :=
  config.variants.filter fun variant => selection.isEmpty || selection.contains variant.os

/-- What the reports of all variants lead to. -/
def conclude (config : Config) (trigger : Trigger) (reports : List VariantReport) (defer : Bool) :
    Conclusion :=
  -- No reports at all are no success.
  let allSucceeded := !reports.isEmpty && reports.all (·.succeeded)
  match Gate.decide trigger.tagBlank allSucceeded (Gate.isOnTarget trigger config.targetBranch) with
  | .skipPipeline => .settled .skippedByGate
  | .variantsFailed => .settled .variantsFailed
  | .notOnReleaseBranch => .settled (.notOnReleaseBranch trigger.branch config.targetBranch)
  | .publish =>
    if defer then .settled (.publishDeferred (reports.map (·.variant.os)))
    else .publish ((reports.filter (·.succeeded)).filterMap (·.artifact))

/-- The status after an attempt to publish. -/
def statusOfPublish : Except PublishError PublishedRelease → PipelineStatus
  | .ok release => .published release
  | .error error => .publishFailed .publishFailure error.message

/-- Why a pipeline without a publisher cannot publish. -/
def noPublisher : PublishError :=
  .notConfigured "no release credential or repository configured"

section
variable {m : Type → Type} [Monad m]

/-- What is to be released of a commit. -/
def describeRelease (pipeline : Pipeline m) (commit : String) : m ReleaseDescriptor := do
  let now ← pipeline.clock
  pure (.compute pipeline.config commit now)

/-- Publishes artifacts, if there is a publisher. -/
def publish (pipeline : Pipeline m) (descriptor : ReleaseDescriptor) (artifacts : List Artifact) :
    m (Except PublishError PublishedRelease) :=
  match pipeline.publisher with
  | some publisher => publisher.publish descriptor artifacts
  | none => pure (.error noPublisher)

/-- Ends a pipeline on the reports of all variants. -/
def finish (pipeline : Pipeline m) (trigger : Trigger) (reports : List VariantReport)
    (defer : Bool) : m PipelineOutcome :=
  match conclude pipeline.config trigger reports defer with
  | .settled status => pure ⟨status, reports, none⟩
  | .publish artifacts => do
    let descriptor ← pipeline.describeRelease trigger.commit
    let result ← pipeline.publish descriptor artifacts
    pure ⟨statusOfPublish result, reports, some descriptor⟩

/-- Saves the reports of a run. One that cannot be saved is passed over. -/
def record (site : Site m) (config : Config) (commit : String) (reports : List VariantReport) :
    m Unit :=
  reports.forM fun report => do
    -- The outcome rests on the reports themselves and not on their files.
    let _ ← (ReportStore.ofConfig config).save site.toFiles commit report
    pure ()

/-- Runs the selected variants and ends on their reports. -/
def run (pipeline : Pipeline m) (site : Site m) (execute : Config → Variant → m TaskEnd)
    (trigger : Trigger) : m (Except RunError PipelineOutcome) :=
  if Gate.isEnabled trigger then
    let selected := selectedVariants pipeline.config pipeline.selection
    -- A run that leaves variants out cannot know how the others fared.
    let isPartial := selected.length < pipeline.config.variants.length
    let asked := places pipeline.cap selected.length
    if maxPlaces < asked then pure (.error (.tooManyPlaces asked))
    else do
      let reports ← runAll (execute { pipeline.config with variants := selected }) site.now
        site.newRunId selected
      -- The reports are saved before anything is published, so a later aggregation finds them
      -- however that ends.
      record site pipeline.config trigger.commit reports
      let outcome ← pipeline.finish trigger reports (isPartial || pipeline.deferPublish)
      pure (.ok outcome)
  else pure (.ok .skippedByGate)

/-- Ends on the reports that earlier runs left behind. -/
def aggregate (pipeline : Pipeline m) (site : Site m) (trigger : Trigger) : m PipelineOutcome :=
  if Gate.isEnabled trigger then do
    let store := ReportStore.ofConfig pipeline.config
    let reports ← store.loadAll site pipeline.config trigger.commit
    pipeline.finish trigger reports false
  else pure .skippedByGate

end
end Pipeline
end ReleasePipeline
