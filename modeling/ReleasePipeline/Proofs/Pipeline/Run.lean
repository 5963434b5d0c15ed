import ReleasePipeline.Proofs.Pipeline.Ending

/-!
# `ReleasePipeline.Proofs.Pipeline.Run`: when a run publishes

A run selects variants, runs them, keeps their reports, and then ends on them. The main statement
is `run_publishes_exactly_when`: a run that was not asked for more places than there can be calls
the publisher at most once, and exactly when all of these hold:

1. the tag is absent or blank;
2. there are variants, and the selection leaves none of them out;
3. publishing is not put off;
4. every task returned a report of success;
5. the branch is the released one, and there is a publisher.

It also gives the exit code in these terms. A run that was asked for too many places breaks down
before anything was run, which is the only way in which a run has no outcome.

The world, the execution service, the publisher and the clock are arbitrary. The execution service
returns any reports, or crashes, and may answer differently each time.
-/

set_option autoImplicit false

namespace ReleasePipeline.Proofs

open Pipeline (selectedVariants)

/-! ### Which variants are selected -/

/-- A selection leaves no configured variant out. An empty one names them all. -/
def NamesAll (config : Config) (selection : List String) : Prop :=
  selection = [] ∨ ∀ variant ∈ config.variants, variant.os ∈ selection

/-- A variant is selected when it is configured and the selection names it or is empty. -/
theorem mem_selectedVariants {config : Config} {selection : List String} {variant : Variant} :
    variant ∈ selectedVariants config selection ↔
      variant ∈ config.variants ∧ (selection = [] ∨ variant.os ∈ selection) := by
  simp [selectedVariants]

/-- A selected variant is one of the configuration. -/
theorem mem_variants_of_mem_selected {config : Config} {selection : List String} {variant : Variant}
    (h : variant ∈ selectedVariants config selection) : variant ∈ config.variants :=
  (mem_selectedVariants.mp h).1

/-- A selection that leaves nothing out gives the variants as they are configured. -/
theorem selectedVariants_eq {config : Config} {selection : List String}
    (h : NamesAll config selection) : selectedVariants config selection = config.variants := by
  apply List.filter_eq_self.mpr
  intro variant hvariant
  rcases h with hempty | hall
  · simp [hempty]
  · simp [hall variant hvariant]

/-- Fewer variants are selected than there are exactly when the selection leaves one out. -/
theorem length_selectedVariants_lt {config : Config} {selection : List String} :
    (selectedVariants config selection).length < config.variants.length ↔
      ¬ NamesAll config selection := by
  constructor
  · intro hlt hall
    rw [selectedVariants_eq hall] at hlt
    exact Nat.lt_irrefl _ hlt
  · intro hnot
    obtain ⟨hnonempty, hmissing⟩ := not_or.mp hnot
    obtain ⟨variant, hvariant⟩ := not_forall.mp hmissing
    obtain ⟨hmem, hos⟩ := Classical.not_imp.mp hvariant
    exact List.length_filter_lt_length_iff_exists.mpr ⟨variant, hmem, by simp [hnonempty, hos]⟩

/-! ### What the reports say of the tasks -/

/-- A task returned a report of success. -/
def Succeeded (result : TaskEnd) : Prop :=
  ∃ report artifact, result = .ok report ∧ report.stage = .done ∧ report.artifact = some artifact

/-- The artifact in the report that a task returned. -/
def artifactOf (result : TaskEnd) : Option Artifact :=
  result.toOption.bind (·.artifact)

/-- A report succeeded when it is done and has an artifact. -/
theorem succeeded_iff (report : VariantReport) :
    report.succeeded = true ↔
      report.stage = .done ∧ ∃ artifact, report.artifact = some artifact := by
  unfold VariantReport.succeeded
  rw [Bool.and_eq_true, beq_iff_eq, Option.isSome_iff_exists]

/-- What is reported of a task: its own report, or one that did not succeed. -/
def Reported (result : TaskEnd) (report : VariantReport) : Prop :=
  match result with
  | .ok returned => report = returned
  | .error _ => report.succeeded = false

/-- The reports of all tasks, in their order. -/
theorem reported_collect {σ : Type} (now : StateM σ Instant) (newRunId : StateM σ RunId)
    (number : Nat) {variants : List Variant} {ends : List TaskEnd}
    (hlength : variants.length = ends.length) (world : σ) :
    List.Forall₂ Reported ends ((collect now newRunId number variants ends).run world).1 := by
  induction variants generalizing number ends world with
  | nil =>
      rw [List.length_nil, eq_comm, List.length_eq_zero_iff] at hlength
      subst hlength
      exact .nil
  | cons variant rest ih =>
      cases ends with
      | nil => simp at hlength
      | cons result results =>
          have hrest : rest.length = results.length := by simpa using hlength
          rw [collect, run_bind]
          -- A crashed task is reported as aborted, which is no success.
          refine .cons ?_ (ih (number + 1) hrest _)
          cases result with
          | ok report => rfl
          | error message => rfl

/-- What holds of the reports of single tasks holds of all reports. -/
theorem forall₂_collect {σ : Type} {now : StateM σ Instant} {newRunId : StateM σ RunId}
    {P : Variant → TaskEnd → Prop} {Q : Variant → VariantReport → Prop}
    (task : ∀ {variant result}, P variant result → ∀ number world,
      Q variant ((reportTask now newRunId number variant result).run world).1)
    (number : Nat) {variants : List Variant} {ends : List TaskEnd}
    (h : List.Forall₂ P variants ends) (world : σ) :
    List.Forall₂ Q variants ((collect now newRunId number variants ends).run world).1 := by
  induction h generalizing number world with
  | nil => exact .nil
  | cons hfirst _ ih =>
      rw [collect, run_bind]
      exact .cons (task hfirst number world) (ih (number + 1) _)

/-- Reporting on tasks leads where the clock and new identifiers do. -/
theorem moves_collect {σ : Type} {R : σ → σ → Prop} [IsPreorder σ R] {now : StateM σ Instant}
    {newRunId : StateM σ RunId} (hnow : Moves R now) (hnew : Moves R newRunId) (number : Nat)
    (variants : List Variant) (ends : List TaskEnd) :
    Moves R (collect now newRunId number variants ends) := by
  induction variants generalizing number ends with
  | nil => exact moves_pure []
  | cons variant rest ih =>
      cases ends with
      | nil => exact moves_pure []
      | cons result results =>
          -- Only the report of a task that crashed asks for a name and for the time.
          have hreport : Moves R (reportTask now newRunId number variant result) := by
            cases result with
            | ok report => exact moves_pure report
            | error message => exact hnew.bind fun _ => hnow.bind fun _ => moves_pure _
          rw [collect]
          exact hreport.bind fun _ => (ih (number + 1) results).bind fun _ => moves_pure _

/-- A task succeeded exactly when its report did, and then the report has the artifact of the
task. -/
theorem Reported.succeeded_iff {result : TaskEnd} {report : VariantReport}
    (h : Reported result report) : report.succeeded = true ↔ Succeeded result := by
  cases result with
  | ok returned =>
      cases h
      rw [Proofs.succeeded_iff]
      constructor
      · rintro ⟨hstage, artifact, hartifact⟩
        exact ⟨report, artifact, rfl, hstage, hartifact⟩
      · rintro ⟨other, artifact, heq, hstage, hartifact⟩
        cases heq
        exact ⟨hstage, artifact, hartifact⟩
  | error message =>
      have hfailed : report.succeeded = false := h
      simp [hfailed, Succeeded]

/-- All tasks succeeded exactly when all reports did. -/
theorem forall_succeeded_iff {ends : List TaskEnd} {reports : List VariantReport}
    (h : List.Forall₂ Reported ends reports) :
    (∀ report ∈ reports, report.succeeded = true) ↔ ∀ result ∈ ends, Succeeded result := by
  induction h with
  | nil => simp
  | cons hfirst _ ih => simp only [List.forall_mem_cons, hfirst.succeeded_iff, ih]

/-- Where all tasks succeeded, the reports have the artifacts of the tasks. -/
theorem map_artifact_eq {ends : List TaskEnd} {reports : List VariantReport}
    (h : List.Forall₂ Reported ends reports) (hall : ∀ result ∈ ends, Succeeded result) :
    reports.map (·.artifact) = ends.map artifactOf := by
  induction h with
  | nil => rfl
  | @cons result report _ _ hfirst _ ih =>
      obtain ⟨hresult, hrest⟩ := List.forall_mem_cons.mp hall
      obtain ⟨returned, _, rfl, _, _⟩ := hresult
      have hreport : report = returned := hfirst
      rw [List.map_cons, List.map_cons, ih hrest, hreport]
      rfl

/-! ### The run as a whole -/

section
variable {σ : Type} (pipeline : Pipeline (StateM σ)) (site : Site (StateM σ))
  (execute : Config → Variant → StateM σ TaskEnd)

/-- How the tasks of a run that starts in a world end. -/
def taskEnds (world : σ) : List TaskEnd :=
  let selected := selectedVariants pipeline.config pipeline.selection
  ((selected.mapM (execute { pipeline.config with variants := selected })).run world).1

/-- The number of places that a run asks for. -/
def askedPlaces : Nat :=
  places pipeline.cap (selectedVariants pipeline.config pipeline.selection).length

/-- Whether a run puts publishing off: it leaves variants out, or it was asked to. -/
def defers : Bool :=
  decide ((selectedVariants pipeline.config pipeline.selection).length <
    pipeline.config.variants.length) || pipeline.deferPublish

/-- The reports of the selected variants, and the world once these were run. -/
def runSelected (world : σ) : List VariantReport × σ :=
  let selected := selectedVariants pipeline.config pipeline.selection
  (runAll (execute { pipeline.config with variants := selected }) site.now site.newRunId
    selected).run world

/-- The watched world once the selected variants were run and their reports were saved. -/
def recordRun (trigger : Trigger) (watched : Watched σ) : Watched σ :=
  let ran := runSelected pipeline site execute watched.world
  ((Pipeline.record (watchedSite site) pipeline.config trigger.commit ran.1).run
    { watched with world := ran.2 }).2

/-- There is one end for each selected variant. -/
theorem length_taskEnds (world : σ) :
    (taskEnds pipeline execute world).length =
      (selectedVariants pipeline.config pipeline.selection).length :=
  length_run_mapM _ _ world

/-- The selected variants are reported on. -/
theorem reported_runSelected (world : σ) :
    List.Forall₂ Reported (taskEnds pipeline execute world)
      (runSelected pipeline site execute world).1 :=
  reported_collect _ _ 1 (length_taskEnds pipeline execute world).symm _

/-- Running variants and saving their reports calls no publisher. -/
theorem calls_recordRun (trigger : Trigger) (watched : Watched σ) :
    (recordRun pipeline site execute trigger watched).calls = watched.calls :=
  keeps_calls_record site pipeline.config trigger.commit _ _

variable {pipeline execute} {trigger : Trigger}

/-- A tagged trigger runs nothing. -/
theorem run_tagged (htag : trigger.tagBlank = false) (watched : Watched σ) :
    (watchedRun pipeline site execute trigger).run watched =
      (.ok .skippedByGate, watched) := by
  unfold watchedRun Pipeline.run Gate.isEnabled
  rw [htag]
  rfl

/-- A run that asks for too many places runs nothing. -/
theorem run_tooManyPlaces (htag : trigger.tagBlank = true)
    (hplaces : maxPlaces < askedPlaces pipeline) (watched : Watched σ) :
    (watchedRun pipeline site execute trigger).run watched =
      (.error (.tooManyPlaces (askedPlaces pipeline)), watched) := by
  unfold watchedRun Pipeline.run Gate.isEnabled
  rw [htag, if_pos rfl]
  exact run_ite_of hplaces _ _ watched

/-- Any other run ends on the reports of its tasks, once these were saved. -/
theorem run_eq (htag : trigger.tagBlank = true) (hplaces : ¬ maxPlaces < askedPlaces pipeline)
    (watched : Watched σ) :
    (watchedRun pipeline site execute trigger).run watched =
      let reports := (runSelected pipeline site execute watched.world).1
      let ended := ((watchedPipeline pipeline).finish trigger reports (defers pipeline)).run
        (recordRun pipeline site execute trigger watched)
      (.ok ended.1, ended.2) := by
  let selected := selectedVariants pipeline.config pipeline.selection
  unfold watchedRun Pipeline.run Gate.isEnabled
  rw [htag, if_pos rfl]
  refine (run_ite_of_not hplaces _ _ watched).trans ?_
  -- Running the variants leaves no note, so it can be taken out of the watched world.
  have hran : (runAll (fun variant => quietly
      (execute { pipeline.config with variants := selected } variant))
      (quietly site.now) (quietly site.newRunId) selected).run watched =
      ((runSelected pipeline site execute watched.world).1,
        { watched with world := (runSelected pipeline site execute watched.world).2 }) := by
    rw [runAll_quietly]
    rfl
  exact run_bind_of hran _

/-- A run does not put publishing off when nothing is left out and nobody asks for it. -/
theorem defers_eq_false_iff (pipeline : Pipeline (StateM σ)) :
    defers pipeline = false ↔
      NamesAll pipeline.config pipeline.selection ∧ pipeline.deferPublish = false := by
  unfold defers
  rw [Bool.or_eq_false_iff, decide_eq_false_iff_not, length_selectedVariants_lt, not_not]

/-- There are reports when there are selected variants. -/
theorem reports_eq_nil_iff {world : σ} {reports : List VariantReport}
    (h : List.Forall₂ Reported (taskEnds pipeline execute world) reports) :
    reports = [] ↔ selectedVariants pipeline.config pipeline.selection = [] := by
  rw [← List.length_eq_zero_iff, ← List.length_eq_zero_iff, ← h.length_eq, length_taskEnds]

/-- Any other run has an outcome, whose reports are those of its tasks. -/
theorem run_ended (execute : Config → Variant → StateM σ TaskEnd)
    (htag : trigger.tagBlank = true) (hplaces : ¬ maxPlaces < askedPlaces pipeline) (world : σ) :
    ∃ reports outcome after, List.Forall₂ Reported (taskEnds pipeline execute world) reports ∧
      Ended pipeline trigger reports (defers pipeline) outcome after.calls ∧
      (watchedRun pipeline site execute trigger).run (unwatched world) = (.ok outcome, after) := by
  have hcalls := calls_recordRun pipeline site execute trigger (unwatched world)
  exact ⟨_, _, _, reported_runSelected pipeline site execute world, ended_finish hcalls rfl,
    run_eq site htag hplaces (unwatched world)⟩

/-- The publish stage of a run is reached under conditions on the trigger, the selection and the
tasks alone. -/
theorem releasable_run_iff (trigger : Trigger) {world : σ} {reports : List VariantReport}
    (h : List.Forall₂ Reported (taskEnds pipeline execute world) reports) :
    (Releasable pipeline.config trigger reports ∧ defers pipeline = false) ↔
    trigger.tagBlank = true ∧ pipeline.config.variants ≠ [] ∧
      NamesAll pipeline.config pipeline.selection ∧ pipeline.deferPublish = false ∧
      (∀ result ∈ taskEnds pipeline execute world, Succeeded result) ∧
      trigger.branch = pipeline.config.targetBranch := by
  rw [defers_eq_false_iff, ← forall_succeeded_iff h]
  have hnil := reports_eq_nil_iff h
  constructor
  · rintro ⟨hreleasable, hall, hdefer⟩
    rw [selectedVariants_eq hall] at hnil
    exact ⟨hreleasable.untagged, mt hnil.mpr hreleasable.reported, hall, hdefer,
      hreleasable.succeeded, hreleasable.onTarget⟩
  · rintro ⟨htag, hvariants, hall, hdefer, hsucceeded, hbranch⟩
    rw [selectedVariants_eq hall] at hnil
    exact ⟨⟨htag, mt hnil.mp hvariants, hsucceeded, hbranch⟩, hall, hdefer⟩

end

/-- **When a run publishes.** A run breaks down, before anything was done, when its trigger is
untagged and it asks for more places than there can be. Every other run has an outcome. Then the
publisher is called at most once, exactly when publishing is reached and there is one, with the
artifacts of all configured variants in their order. The outcome describes a release exactly when
publishing is reached, and its exit code is zero exactly when all of at least one selected
variants succeeded and publishing was not due or went well. A tagged trigger changes nothing. -/
theorem run_publishes_exactly_when {σ : Type} (pipeline : Pipeline (StateM σ))
    (site : Site (StateM σ)) (execute : Config → Variant → StateM σ TaskEnd) (branch : String)
    (tag : Option String) (commit : String) (world : σ) :
    let config := pipeline.config
    let selected := selectedVariants config pipeline.selection
    let ends := taskEnds pipeline execute world
    let untagged := ∀ text ∈ tag, ∀ c ∈ text.toList, Text.isBlank c = true
    let reached := untagged ∧ config.variants ≠ [] ∧ NamesAll config pipeline.selection ∧
      pipeline.deferPublish = false ∧ (∀ result ∈ ends, Succeeded result) ∧
      branch = config.targetBranch
    let run := (watchedRun pipeline site execute (.ofPush branch tag commit)).run
      (unwatched world)
    match run.1 with
    | .error error =>
      untagged ∧ maxPlaces < askedPlaces pipeline ∧
        error = .tooManyPlaces (askedPlaces pipeline) ∧ run.2 = unwatched world
    | .ok outcome =>
      (untagged → askedPlaces pipeline ≤ maxPlaces) ∧
      (reached ∧ pipeline.publisher.isSome = true → ∃ call now, run.2.calls = [call] ∧
        outcome.release = some call.descriptor ∧ call.descriptor = .compute config commit now ∧
        selected = config.variants ∧ call.artifacts.map some = ends.map artifactOf) ∧
      (¬ (reached ∧ pipeline.publisher.isSome = true) → run.2.calls = []) ∧
      (outcome.release.isSome = true ↔ reached) ∧
      (outcome.exitCode = 0 ↔
        untagged ∧ selected ≠ [] ∧ (∀ result ∈ ends, Succeeded result) ∧
        (branch ≠ config.targetBranch ∨ ¬ NamesAll config pipeline.selection ∨
          pipeline.deferPublish = true ∨
          ∃ call ∈ run.2.calls, ∃ release, call.answer = .ok release)) ∧
      (¬ untagged → outcome = .skippedByGate ∧ run.2 = unwatched world) := by
  intro config selected ends untagged reached run
  have htagged : (Trigger.ofPush branch tag commit).tagBlank = true ↔ untagged :=
    tagBlank_ofPush branch tag commit
  by_cases huntagged : untagged
  · have htag := htagged.mpr huntagged
    by_cases hplaces : maxPlaces < askedPlaces pipeline
    · have hrun : run = _ := run_tooManyPlaces site htag hplaces (unwatched world)
      rw [hrun]
      exact ⟨huntagged, hplaces, rfl, rfl⟩
    · obtain ⟨reports, outcome, after, hreports, hended, heq⟩ :=
        run_ended site execute htag hplaces world
      have hrun : run = (.ok outcome, after) := heq
      have hreached := releasable_run_iff (.ofPush branch tag commit) hreports
      rw [htagged] at hreached
      rw [hrun]
      refine ⟨fun _ => Nat.le_of_not_lt hplaces, ?_, ?_, ?_, ?_, ?_⟩
      · rintro ⟨hdue, hpublisher⟩
        obtain ⟨call, now, hcalls, hrelease, hdescriptor, hartifacts⟩ :=
          hended.call (hreached.mpr hdue) hpublisher
        have hall := hdue.2.2.2.2.1
        refine ⟨call, now, hcalls, hrelease, hdescriptor, selectedVariants_eq hdue.2.2.1, ?_⟩
        rw [hartifacts, map_some_filterMap_artifact ((forall_succeeded_iff hreports).mpr hall),
          map_artifact_eq hreports hall]
      · intro hnot
        exact hended.silent (by rwa [hreached])
      · rw [hended.release, hreached]
        rfl
      · rw [exitCode_eq_zero_iff, hended.success, hreached, htagged, ne_eq,
          reports_eq_nil_iff hreports, forall_succeeded_iff hreports]
        constructor
        · rintro ⟨⟨hblank, hselected, hall⟩, hpublished⟩
          refine ⟨hblank, hselected, hall, ?_⟩
          -- Without the first three of these publishing was due, and then a call went well.
          by_contra hnone
          simp only [not_or, not_not] at hnone
          obtain ⟨hbranch, hnames, hdefer, hcall⟩ := hnone
          have hvariants : pipeline.config.variants ≠ [] := by
            rwa [← selectedVariants_eq hnames]
          exact hcall (hpublished ⟨hblank, hvariants, hnames, by simpa using hdefer, hall, hbranch⟩)
        · rintro ⟨hblank, hselected, hall, hor⟩
          refine ⟨⟨hblank, hselected, hall⟩, fun hdue => ?_⟩
          obtain ⟨-, -, hnames, hdefer, -, hbranch⟩ := hdue
          -- The first three deny what publishing needs.
          rcases hor with hoff | hmissing | hdeferred | hcall
          · exact absurd hbranch hoff
          · exact absurd hnames hmissing
          · rw [hdefer] at hdeferred
            exact absurd hdeferred Bool.false_ne_true
          · exact hcall
      · intro hnot
        exact absurd huntagged hnot
  · have htag : (Trigger.ofPush branch tag commit).tagBlank = false := by
      simpa [huntagged] using htagged
    have hrun : run = _ := run_tagged site htag (unwatched world)
    rw [hrun]
    refine ⟨fun h => absurd h huntagged, fun h => absurd h.1.1 huntagged, fun _ => rfl, ?_, ?_,
      fun _ => ⟨rfl, rfl⟩⟩
    · simp [PipelineOutcome.skippedByGate, reached, huntagged]
    · rw [exitCode_eq_zero_iff]
      simp [PipelineOutcome.skippedByGate, isSuccess, PipelineOutcome.isSuccess, huntagged]

end ReleasePipeline.Proofs
