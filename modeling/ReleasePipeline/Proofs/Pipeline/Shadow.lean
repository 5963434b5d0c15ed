import Mathlib.Data.Option.Basic
import ReleasePipeline.Proofs.Execution.Deeds
import ReleasePipeline.Proofs.Pipeline.Watch

/-!
# `ReleasePipeline.Proofs.Pipeline.Shadow`: a run is the same whoever watches it

A run is looked at in worlds that are larger than its own: `Watched` ones have an account of the
calls to the publisher, and `Logged` ones a list of the deeds of variant runs. None of this makes
a difference to the run. Where everything that it asks of its surroundings is shadowed, so is the
run itself (`shadows_run`), and `shadows_watchedRun` says so of a watched one.
-/

set_option autoImplicit false

namespace ReleasePipeline.Proofs

/-- One pipeline is told the same as another one, and what it asks of its publisher and its clock is
shadowed. -/
structure PipelineShadows {σ τ : Type} (view : τ → σ) (pipeline : Pipeline (StateM σ))
    (other : Pipeline (StateM τ)) : Prop where
  config : other.config = pipeline.config
  selection : other.selection = pipeline.selection
  deferPublish : other.deferPublish = pipeline.deferPublish
  cap : other.cap = pipeline.cap
  publisher : Option.Rel (fun first second => ∀ descriptor artifacts,
    Shadows view (first.publish descriptor artifacts) (second.publish descriptor artifacts))
      pipeline.publisher other.publisher
  clock : Shadows view pipeline.clock other.clock

section
variable {σ τ : Type} {view : τ → σ} {site : Site (StateM σ)} {other : Site (StateM τ)}
  {execute : Config → Variant → StateM σ TaskEnd}
  {otherExecute : Config → Variant → StateM τ TaskEnd}
  {pipeline : Pipeline (StateM σ)} {otherPipeline : Pipeline (StateM τ)}

/-- Collecting the ends of tasks does the same on either site. The induction is on the variants, and
only a task that crashed asks for anything. -/
theorem shadows_collect (h : SiteShadows view site other) (number : Nat) (variants : List Variant)
    (ends : List TaskEnd) : Shadows view (collect site.now site.newRunId number variants ends)
      (collect other.now other.newRunId number variants ends) := by
  induction variants generalizing number ends with
  | nil => exact shadows_pure []
  | cons variant rest ih =>
      cases ends with
      | nil => exact shadows_pure []
      | cons result results =>
          -- Only the report of a task that crashed asks for a name and for the time.
          have hreport : Shadows view (reportTask site.now site.newRunId number variant result)
              (reportTask other.now other.newRunId number variant result) := by
            cases result with
            | ok report => exact shadows_pure report
            | error message => exact h.newRunId.bind fun _ => h.now.bind fun _ => shadows_pure _
          rw [collect, collect]
          exact hreport.bind fun _ => (ih (number + 1) results).bind fun _ => shadows_pure _

/-- Running all tasks does the same in either world where each task does. -/
theorem shadows_runAll (h : SiteShadows view site other) {task : Variant → StateM σ TaskEnd}
    {otherTask : Variant → StateM τ TaskEnd}
    (htask : ∀ variant, Shadows view (task variant) (otherTask variant)) (variants : List Variant) :
    Shadows view (runAll task site.now site.newRunId variants)
      (runAll otherTask other.now other.newRunId variants) :=
  (shadows_mapM htask variants).bind fun ends => shadows_collect h 1 variants ends

/-- So does saving a report. It makes a directory, and if that goes well it writes a file. -/
theorem shadows_save (h : SiteShadows view site other) (store : ReportStore) (commit : String)
    (report : VariantReport) : Shadows view (store.save site.toFiles commit report)
      (store.save other.toFiles commit report) := by
  refine (h.createDirs _).bind fun made => ?_
  cases made with
  | error error => exact shadows_pure _
  | ok _ =>
      refine (h.write _ _).bind fun written => ?_
      cases written <;> exact shadows_pure _

/-- So does saving one report after the other. -/
theorem shadows_record (h : SiteShadows view site other) (config : Config) (commit : String)
    (reports : List VariantReport) : Shadows view (Pipeline.record site config commit reports)
      (Pipeline.record other config commit reports) :=
  shadows_forM (fun report => (shadows_save h _ commit report).bind fun _ => shadows_pure _) reports

/-- So does the end of a run. Where it publishes it asks the clock and then the publisher, and these
do the same for both pipelines. -/
theorem shadows_finish (h : PipelineShadows view pipeline otherPipeline) (trigger : Trigger)
    (reports : List VariantReport) (defer : Bool) :
    Shadows view (pipeline.finish trigger reports defer)
      (otherPipeline.finish trigger reports defer) := by
  unfold Pipeline.finish
  rw [h.config]
  split
  next => exact shadows_pure _
  next artifacts _ =>
    have hdescribed : Shadows view (pipeline.describeRelease trigger.commit)
        (otherPipeline.describeRelease trigger.commit) := by
      unfold Pipeline.describeRelease
      rw [h.config]
      exact h.clock.bind fun _ => shadows_pure _
    refine hdescribed.bind fun descriptor => Shadows.bind ?_ fun _ => shadows_pure _
    unfold Pipeline.publish
    -- Either both have a publisher or neither has one.
    have hpublisher := h.publisher
    generalize pipeline.publisher = first at hpublisher ⊢
    generalize otherPipeline.publisher = second at hpublisher ⊢
    cases hpublisher with
    | none => exact shadows_pure _
    | some hcall => exact hcall descriptor artifacts

/-- A run is shadowed where everything that it asks of its surroundings is. -/
theorem shadows_run (hpipeline : PipelineShadows view pipeline otherPipeline)
    (hsite : SiteShadows view site other)
    (hexecute : ∀ config variant,
      Shadows view (execute config variant) (otherExecute config variant))
    (trigger : Trigger) :
    Shadows view (pipeline.run site execute trigger)
      (otherPipeline.run other otherExecute trigger) := by
  unfold Pipeline.run
  rw [hpipeline.config, hpipeline.selection, hpipeline.deferPublish, hpipeline.cap]
  refine Shadows.ite _ (Shadows.ite _ (shadows_pure _) ?_) (shadows_pure _)
  refine (shadows_runAll hsite (hexecute _) _).bind fun reports =>
    (shadows_record hsite _ _ reports).bind fun _ => ?_
  exact (shadows_finish hpipeline trigger reports _).bind fun _ => shadows_pure _

end

/-! ### Watched runs -/

section
variable {σ : Type}

/-- A site that is watched does what it does. -/
theorem siteShadows_watched (site : Site (StateM σ)) :
    SiteShadows Watched.world site (watchedSite site) :=
  ⟨fun _ _ => ⟨rfl, rfl⟩, fun _ _ _ => ⟨rfl, rfl⟩, fun _ _ => ⟨rfl, rfl⟩, fun _ _ _ => ⟨rfl, rfl⟩,
    fun _ _ => ⟨rfl, rfl⟩, fun _ _ => ⟨rfl, rfl⟩, fun _ => ⟨rfl, rfl⟩, fun _ => ⟨rfl, rfl⟩,
    fun _ => ⟨rfl, rfl⟩⟩

/-- So does a pipeline. -/
theorem pipelineShadows_watched (pipeline : Pipeline (StateM σ)) :
    PipelineShadows Watched.world pipeline (watchedPipeline pipeline) := by
  refine ⟨rfl, rfl, rfl, rfl, ?_, fun _ => ⟨rfl, rfl⟩⟩
  unfold watchedPipeline
  cases pipeline.publisher with
  | none => exact .none
  | some publisher => exact .some fun _ _ _ => ⟨rfl, rfl⟩

/-- A run that is watched is the run. -/
theorem shadows_watchedRun (pipeline : Pipeline (StateM σ)) (site : Site (StateM σ))
    (execute : Config → Variant → StateM σ TaskEnd) (trigger : Trigger) :
    Shadows Watched.world (pipeline.run site execute trigger)
      (watchedRun pipeline site execute trigger) :=
  shadows_run (pipelineShadows_watched pipeline) (siteShadows_watched site)
    (fun _ _ _ => ⟨rfl, rfl⟩) trigger

end

end ReleasePipeline.Proofs
