import Mathlib.Data.List.Forall2
import ReleasePipeline.Proofs.Pipeline.Watch

/-!
# `ReleasePipeline.Proofs.Pipeline.Ending`: how a pipeline ends on its reports

A run and an aggregation end the same way, in `Pipeline.finish`. Everything that the decision to
publish looks at is gathered in `Releasable`: the trigger, the reports and the branch.

* `conclude_of_releasable` and `conclude_of_not_releasable` say what the reports lead to: their
  artifacts are published, or there is a status already. That status is a success exactly when the
  trigger has no tag, there are reports, and all of them succeeded.
* `run_finish_publisher` and `run_finish_no_publisher` say what the end of a pipeline that publishes
  does in a watched world, and `run_finish_settled` what any other end does: nothing.
* `ended_finish` draws the three together: `Ended` is what can be said of the outcome and of the
  calls to the publisher, whichever end it was.
-/

set_option autoImplicit false

namespace ReleasePipeline.Proofs

open Pipeline (conclude selectedVariants statusOfPublish noPublisher)

/-- A trigger is untagged when its tag is absent or blank throughout. -/
theorem tagBlank_ofPush (branch : String) (tag : Option String) (commit : String) :
    (Trigger.ofPush branch tag commit).tagBlank = true ↔
      ∀ text ∈ tag, ∀ c ∈ text.toList, Text.isBlank c = true := by
  cases tag with
  | none => simp [Trigger.ofPush]
  | some text => simp [Trigger.ofPush, Text.isBlankText]

/-- Everything that has to hold for the artifacts of some reports to be published. -/
structure Releasable (config : Config) (trigger : Trigger) (reports : List VariantReport) :
    Prop where
  untagged : trigger.tagBlank = true
  reported : reports ≠ []
  succeeded : ∀ report ∈ reports, report.succeeded = true
  onTarget : trigger.branch = config.targetBranch

/-- Whether a pipeline that ends with a status did what it should. -/
def isSuccess (status : PipelineStatus) : Bool :=
  (PipelineOutcome.mk status [] none).isSuccess

/-- Whether an outcome is a success depends on its status alone. -/
theorem isSuccess_outcome (outcome : PipelineOutcome) :
    outcome.isSuccess = isSuccess outcome.status :=
  rfl

/-- The exit code depends on the status alone as well. -/
theorem exitCode_congr {first second : PipelineOutcome} (h : first.status = second.status) :
    first.exitCode = second.exitCode := by
  unfold PipelineOutcome.exitCode
  rw [isSuccess_outcome, isSuccess_outcome, h]

/-- The exit code is zero for a success and for nothing else. -/
theorem exitCode_eq_zero_iff (outcome : PipelineOutcome) :
    outcome.exitCode = 0 ↔ isSuccess outcome.status = true := by
  unfold PipelineOutcome.exitCode
  rw [isSuccess_outcome]
  cases isSuccess outcome.status <;> decide

/-- An attempt to publish is a success when the publisher says so. -/
theorem isSuccess_statusOfPublish (answer : Except PublishError PublishedRelease) :
    isSuccess (statusOfPublish answer) = true ↔ ∃ release, answer = .ok release := by
  cases answer with
  | ok release => simp [statusOfPublish, isSuccess, PipelineOutcome.isSuccess]
  | error error => simp [statusOfPublish, isSuccess, PipelineOutcome.isSuccess]

/-- The test of `conclude` for success, as a statement about the single reports. -/
theorem allSucceeded_iff (reports : List VariantReport) :
    (!reports.isEmpty && reports.all (·.succeeded)) = true ↔
      reports ≠ [] ∧ ∀ report ∈ reports, report.succeeded = true := by
  simp

/-- The artifacts of reports that all succeeded are published, unless publishing is put off. -/
theorem conclude_of_releasable {config : Config} {trigger : Trigger}
    {reports : List VariantReport} (h : Releasable config trigger reports) :
    conclude config trigger reports false = .publish (reports.filterMap (·.artifact)) := by
  have hall : (!reports.isEmpty && reports.all (·.succeeded)) = true :=
    (allSucceeded_iff reports).mpr ⟨h.reported, h.succeeded⟩
  have hbranch : Gate.isOnTarget trigger config.targetBranch = true := by
    simp [Gate.isOnTarget, h.onTarget]
  have hfilter : reports.filter (·.succeeded) = reports :=
    List.filter_eq_self.mpr h.succeeded
  simp only [conclude, Gate.decide, h.untagged, hall, hbranch, hfilter]
  rfl

/-- Where nothing is published, the reports lead to a status at once. It is a success when the
trigger has no tag and all of at least one reports succeeded. -/
theorem conclude_of_not_releasable {config : Config} {trigger : Trigger}
    {reports : List VariantReport} {defer : Bool}
    (h : ¬ (Releasable config trigger reports ∧ defer = false)) :
    ∃ status, conclude config trigger reports defer = .settled status ∧
      (isSuccess status = true ↔ trigger.tagBlank = true ∧ reports ≠ [] ∧
        ∀ report ∈ reports, report.succeeded = true) := by
  rw [← allSucceeded_iff]
  unfold conclude
  -- The tests are made in the order of `conclude`: the tag, the reports, the branch.
  cases htag : trigger.tagBlank with
  | false => exact ⟨.skippedByGate, rfl, by simp [isSuccess, PipelineOutcome.isSuccess]⟩
  | true =>
      cases hall : (!reports.isEmpty && reports.all (·.succeeded)) with
      | false => exact ⟨.variantsFailed, rfl, by decide⟩
      | true =>
          cases hbranch : Gate.isOnTarget trigger config.targetBranch with
          | false =>
              exact ⟨.notOnReleaseBranch trigger.branch config.targetBranch, rfl,
                by simp [isSuccess, PipelineOutcome.isSuccess]⟩
          | true =>
              -- Every condition but one holds, so the run must be one that puts publishing off.
              obtain ⟨hne, hsucceeded⟩ := (allSucceeded_iff reports).mp hall
              have hreleasable : Releasable config trigger reports :=
                ⟨htag, hne, hsucceeded, by simpa [Gate.isOnTarget] using hbranch⟩
              cases defer with
              | false => exact absurd ⟨hreleasable, rfl⟩ h
              | true =>
                  exact ⟨.publishDeferred (reports.map (·.variant.os)), rfl,
                    by simp [isSuccess, PipelineOutcome.isSuccess]⟩

/-- Every report that succeeded has an artifact. -/
theorem map_some_filterMap_artifact {reports : List VariantReport}
    (h : ∀ report ∈ reports, report.succeeded = true) :
    (reports.filterMap (·.artifact)).map some = reports.map (·.artifact) := by
  induction reports with
  | nil => rfl
  | cons report rest ih =>
      have hreport : report.succeeded = true := h report (by simp)
      have hrest := ih fun other hother => h other (by simp [hother])
      cases hartifact : report.artifact with
      | none => simp [VariantReport.succeeded, hartifact] at hreport
      | some artifact => simp [hartifact, hrest]

/-! ### The end in any world -/

section
variable {σ : Type} {pipeline : Pipeline (StateM σ)} {trigger : Trigger}
  {reports : List VariantReport} {defer : Bool}

/-- The outcome shows the reports that the pipeline ended on. -/
theorem variants_end (world : σ) :
    ((pipeline.finish trigger reports defer).run world).1.variants = reports := by
  unfold Pipeline.finish
  split <;> rfl

/-- The end of a pipeline leads where the clock and the publisher do. -/
theorem moves_end {R : σ → σ → Prop} [IsPreorder σ R] (hclock : Moves R pipeline.clock)
    (hpublisher : ∀ publisher ∈ pipeline.publisher, ∀ descriptor artifacts,
      Moves R (publisher.publish descriptor artifacts)) :
    Moves R (pipeline.finish trigger reports defer) := by
  unfold Pipeline.finish
  split
  next => exact moves_pure _
  next artifacts _ =>
    refine (hclock.bind fun _ => moves_pure _).bind fun descriptor =>
      Moves.bind ?_ fun _ => moves_pure _
    -- Without a publisher there is nothing more to lead anywhere.
    unfold Pipeline.publish
    cases hsome : pipeline.publisher with
    | none => exact moves_pure _
    | some publisher => exact hpublisher publisher hsome descriptor artifacts

end

/-! ### The end in a watched world -/

section
variable {σ : Type} {pipeline : Pipeline (StateM σ)} {trigger : Trigger}
  {reports : List VariantReport} {defer : Bool} {artifacts : List Artifact}

/-- A pipeline that is to publish reads the clock and calls its publisher once. -/
theorem run_finish_publisher {publisher : Publisher (StateM σ)}
    (h : conclude pipeline.config trigger reports defer = .publish artifacts)
    (hp : pipeline.publisher = some publisher) (watched : Watched σ) :
    ((watchedPipeline pipeline).finish trigger reports defer).run watched =
      let read := pipeline.clock.run watched.world
      let descriptor := ReleaseDescriptor.compute pipeline.config trigger.commit read.1
      let answered := (publisher.publish descriptor artifacts).run read.2
      (⟨statusOfPublish answered.1, reports, some descriptor⟩,
        ⟨answered.2, watched.calls ++ [⟨descriptor, artifacts, answered.1⟩],
          watched.refusals⟩) := by
  have hc : conclude (watchedPipeline pipeline).config trigger reports defer =
      .publish artifacts := h
  have hpub : (watchedPipeline pipeline).publisher = some (watchedPublisher publisher) := by
    simp [watchedPipeline, hp]
  unfold Pipeline.finish Pipeline.publish
  rw [hc, hpub]
  rfl

/-- Without a publisher it reads the clock, and then has failed to publish. -/
theorem run_finish_no_publisher
    (h : conclude pipeline.config trigger reports defer = .publish artifacts)
    (hp : pipeline.publisher = none) (watched : Watched σ) :
    ((watchedPipeline pipeline).finish trigger reports defer).run watched =
      let read := pipeline.clock.run watched.world
      let descriptor := ReleaseDescriptor.compute pipeline.config trigger.commit read.1
      (⟨statusOfPublish (.error noPublisher), reports, some descriptor⟩,
        { watched with world := read.2 }) := by
  have hc : conclude (watchedPipeline pipeline).config trigger reports defer =
      .publish artifacts := h
  have hpub : (watchedPipeline pipeline).publisher = none := by
    simp [watchedPipeline, hp]
  unfold Pipeline.finish Pipeline.publish
  rw [hc, hpub]
  rfl

/-- A pipeline that is not to publish ends without doing anything more. -/
theorem run_finish_settled {status : PipelineStatus}
    (h : conclude pipeline.config trigger reports defer = .settled status)
    (watched : Watched σ) :
    ((watchedPipeline pipeline).finish trigger reports defer).run watched =
      (⟨status, reports, none⟩, watched) := by
  have hc : conclude (watchedPipeline pipeline).config trigger reports defer =
      .settled status := h
  unfold Pipeline.finish
  rw [hc]
  rfl

/-- In a watched world the outcome shows these reports as well. -/
theorem variants_finish (pipeline : Pipeline (StateM σ)) (trigger : Trigger)
    (reports : List VariantReport) (defer : Bool) (watched : Watched σ) :
    (((watchedPipeline pipeline).finish trigger reports defer).run watched).1.variants = reports :=
  variants_end watched

/-- A watched end leads where the quiet clock and the watched publisher do. -/
theorem moves_finish {R : Watched σ → Watched σ → Prop} [IsPreorder (Watched σ) R]
    (hclock : Moves R (quietly pipeline.clock))
    (hpublisher : ∀ publisher ∈ pipeline.publisher, ∀ descriptor artifacts,
      Moves R ((watchedPublisher publisher).publish descriptor artifacts)) :
    Moves R ((watchedPipeline pipeline).finish trigger reports defer) := by
  refine moves_end hclock ?_
  intro watched hwatched
  obtain ⟨publisher, hsome, rfl⟩ := Option.map_eq_some_iff.mp hwatched
  exact hpublisher publisher hsome

/-- No file is written in the end, so none is refused. -/
theorem keeps_refusals_finish :
    Keeps Watched.refusals ((watchedPipeline pipeline).finish trigger reports defer) :=
  moves_finish (R := fun before after => after.refusals = before.refusals) (fun _ => rfl)
    fun _ _ _ _ _ => rfl

/-- What an outcome and the calls to the publisher have to do with the reports that a pipeline
ended on. -/
structure Ended (pipeline : Pipeline (StateM σ)) (trigger : Trigger)
    (reports : List VariantReport) (defer : Bool) (outcome : PipelineOutcome)
    (calls : List PublishCall) : Prop where
  variants : outcome.variants = reports
  /-- A release is described exactly when publishing is due, whether there is a publisher or
  not. -/
  release : outcome.release.isSome = true ↔
    Releasable pipeline.config trigger reports ∧ defer = false
  success : isSuccess outcome.status = true ↔
    (trigger.tagBlank = true ∧ reports ≠ [] ∧ ∀ report ∈ reports, report.succeeded = true) ∧
      ((Releasable pipeline.config trigger reports ∧ defer = false) →
        ∃ call ∈ calls, ∃ release, call.answer = .ok release)
  /-- Without a publisher, or where publishing is not due, there is no call. -/
  silent : ¬ ((Releasable pipeline.config trigger reports ∧ defer = false) ∧
    pipeline.publisher.isSome = true) → calls = []
  /-- Otherwise there is one call, with the artifacts of all reports. -/
  call : (Releasable pipeline.config trigger reports ∧ defer = false) →
    pipeline.publisher.isSome = true →
      ∃ call now, calls = [call] ∧ outcome.release = some call.descriptor ∧
        call.descriptor = .compute pipeline.config trigger.commit now ∧
        call.artifacts = reports.filterMap (·.artifact)

/-- The end of a pipeline in a world where the publisher was not called before. -/
theorem ended_finish {watched after : Watched σ} {outcome : PipelineOutcome}
    (hcalls : watched.calls = [])
    (h : ((watchedPipeline pipeline).finish trigger reports defer).run watched =
      (outcome, after)) :
    Ended pipeline trigger reports defer outcome after.calls := by
  by_cases hreached : Releasable pipeline.config trigger reports ∧ defer = false
  · obtain ⟨hreleasable, rfl⟩ := hreached
    have hgood : trigger.tagBlank = true ∧ reports ≠ [] ∧
        ∀ report ∈ reports, report.succeeded = true :=
      ⟨hreleasable.untagged, hreleasable.reported, hreleasable.succeeded⟩
    cases hp : pipeline.publisher with
    | none =>
        -- Without a publisher a release is described, but there is nobody to call.
        rw [run_finish_no_publisher (conclude_of_releasable hreleasable) hp watched] at h
        cases h
        refine ⟨rfl, by simp [hreleasable], ?_, fun _ => hcalls, ?_⟩
        · rw [isSuccess_statusOfPublish, hcalls]
          simp [hreleasable]
        · intro _ hsome
          simp [hp] at hsome
    | some publisher =>
        -- This is the only end with a call, and its answer is what decides on success.
        rw [run_finish_publisher (conclude_of_releasable hreleasable) hp watched] at h
        cases h
        refine ⟨rfl, by simp [hreleasable], ?_, ?_, ?_⟩
        · rw [isSuccess_statusOfPublish, hcalls]
          simpa [hreleasable] using fun _ _ => ⟨hgood.1, hgood.2⟩
        · intro hnot
          exact absurd ⟨⟨hreleasable, rfl⟩, by simp [hp]⟩ hnot
        · intro _ _
          rw [hcalls]
          exact ⟨_, _, rfl, rfl, rfl, rfl⟩
  · obtain ⟨status, hsettled, hstatus⟩ := conclude_of_not_releasable hreached
    rw [run_finish_settled hsettled watched] at h
    cases h
    refine ⟨rfl, by simp [hreached], ?_, fun _ => hcalls, ?_⟩
    · rw [hstatus]
      simp [hreached]
    · intro hdue
      exact absurd hdue hreached

end

end ReleasePipeline.Proofs
