import ReleasePipeline.Proofs.Pipeline.Collect
import ReleasePipeline.Proofs.Pipeline.Raced
import ReleasePipeline.Proofs.Pipeline.Split

/-!
# `ReleasePipeline.Proofs.Pipeline.Deposit`: what one run leaves of a variant

A run that does not run a variant lets its outputs be, whatever else it does (`spares_push`). A
run that does run it leaves a report under its commit, and behind a report of success it leaves
the artifact that it collected (`deposited_push`). A run that fails on its way may leave the
artifact of an earlier one in place, but not the report of it.

The tasks are followed first, then the reports that are saved, and then the end. Tasks take turns
in any order, and since what is left of them can be run in turns as well, all that they do is
turns (`tasks_in_turns`). A turn of another variant spares the outputs of this one, and a turn of
its own keeps track of it, which `tracked_play` takes through all turns. `Vouched` is what is then
known of a report: it is about its variant, and if it is one of success, the artifact of the
variant was collected. The variants of a run are all different, so the report of a variant is
saved once, and everything before and behind spares its outputs.
-/

set_option autoImplicit false

namespace ReleasePipeline.Proofs

open Pipeline (selectedVariants)

/-- A call to a pipeline: what it is asked for, what set it going, and the order in which its
tasks take turns before what is left of them is run one task after the other. -/
structure Push where
  part : Part
  trigger : Trigger
  turns : List Variant

/-- The turns of a call. Only the variants that it selects have any. -/
def Push.schedule (config : Config) (push : Push) : List Variant :=
  push.turns.filter fun variant => variant ∈ selectedVariants config push.part.selection

/-- A call runs a variant: it has no tag, the variant is selected, and no more places are asked
for than there can be. A call that asks for more breaks down before it runs anything. -/
structure Runs (config : Config) (variant : Variant) (push : Push) : Prop where
  untagged : push.trigger.tagBlank = true
  selected : variant ∈ selectedVariants config push.part.selection
  placed : places push.part.cap (selectedVariants config push.part.selection).length ≤ maxPlaces

section
variable {σ : Type} (pipeline : Pipeline (StateM σ)) (site : Site (StateM σ))
  (files : σ → FileSystem)

/-- A pipeline in a world where the deeds of variant runs are written down. -/
def loggedPipeline : Pipeline (StateM (Logged (Deed σ) σ)) where
  config := pipeline.config
  selection := pipeline.selection
  deferPublish := pipeline.deferPublish
  cap := pipeline.cap
  publisher := pipeline.publisher.map fun publisher =>
    ⟨fun descriptor artifacts => unlogged (publisher.publish descriptor artifacts)⟩
  clock := unlogged pipeline.clock

/-- Runs a pipeline for a call, in a world where the deeds of variant runs are written down. -/
def runPush (push : Push) :
    StateM (Watched (Logged (Deed σ) σ)) (Except RunError PipelineOutcome) :=
  watchedRace (partOf (loggedPipeline pipeline) push.part) (loggedSite site) push.trigger
    (push.schedule pipeline.config)

/-- A pipeline publishes in the same way where deeds are written down, and adds none. -/
theorem pipelineShadows_logged :
    PipelineShadows Logged.world pipeline (loggedPipeline pipeline) := by
  refine ⟨rfl, rfl, rfl, rfl, ?_, shadows_unlogged _⟩
  unfold loggedPipeline
  cases pipeline.publisher with
  | none => exact .none
  | some publisher => exact .some fun _ _ => shadows_unlogged _

/-- Neither watching a run nor writing its deeds down makes a difference to it. -/
theorem shadows_runPush (push : Push) :
    Shadows (fun watched => watched.world.world)
      (racedRun site (partOf pipeline push.part) push.trigger (push.schedule pipeline.config))
      (runPush pipeline site push) := by
  have hlogged := shadows_racedRun (pipelineShadows_logged (partOf pipeline push.part))
    (siteShadows_logged site) push.trigger (push.schedule pipeline.config)
  exact hlogged.trans (shadows_watchedRace _ _ _ _)

/-- A pipeline whose artifact directory is written to by nobody else: neither by the tools that
are run, nor by its clock or its publisher. -/
structure Sheltered : Prop where
  workplace : Workplace site files pipeline.config.artifactPath
  clock : StaysOut files pipeline.config.artifactPath pipeline.clock
  publisher : ∀ publisher ∈ pipeline.publisher, ∀ descriptor artifacts,
    StaysOut files pipeline.config.artifactPath (publisher.publish descriptor artifacts)

end

/-- What a run leaves of a variant that it runs: a report, which it shows and which is stored
under its commit, and behind a report of success the artifact that it collected. -/
structure Deposited {σ : Type} (files : σ → FileSystem) (config : Config) (variant : Variant)
    (commit : String) (report : VariantReport) (result : Except RunError PipelineOutcome)
    (before after : Logged (Deed σ) σ) : Prop where
  about : report.variant = variant
  shown : ∃ outcome, result = .ok outcome ∧ report ∈ outcome.variants
  filed : Holds (files after.world) ((ReportStore.ofConfig config).pathFor variant.os)
    (StoredReport.mk commit report).bytes
  collected : report.succeeded = true → ∃ content, Collected files config.buildOutput
    (Artifact.ofVariant config variant).path content before after

/-- No variant is selected twice. -/
theorem nodup_selectedVariants {config : Config} (hwell : WellFormed config)
    (selection : List String) :
    (selectedVariants config selection).Nodup :=
  (List.Nodup.of_map _ hwell.distinct).filter _

/-- A report is about a variant. If it is the variant in question and the report is one of
success, then its artifact was collected. -/
structure Vouched (variant : Variant) (collected : Prop) (subject : Variant)
    (report : VariantReport) : Prop where
  about : report.variant = subject
  collected : subject = variant → report.succeeded = true → collected

/-- The end of a task is vouched for if its report is. -/
def VouchedEnd (variant : Variant) (collected : Prop) (subject : Variant)
    (result : TaskEnd) : Prop :=
  ∀ report, result = .ok report → Vouched variant collected subject report

/-- What is known of an artifact may be passed on to what follows from it. -/
theorem VouchedEnd.imp {variant subject : Variant} {collected later : Prop} {result : TaskEnd}
    (h : VouchedEnd variant collected subject result) (himp : collected → later) :
    VouchedEnd variant later subject result := by
  intro report hreport
  obtain ⟨habout, hcollected⟩ := h report hreport
  exact ⟨habout, fun hsame hsucceeded => himp (hcollected hsame hsucceeded)⟩

/-- Where the ends of all tasks are vouched for, so are their reports. -/
theorem vouched_collect {σ : Type} (now : StateM σ Instant) (newRunId : StateM σ RunId)
    (number : Nat) {variant : Variant} {collected : Prop} {subjects : List Variant}
    {ends : List TaskEnd} (h : List.Forall₂ (VouchedEnd variant collected) subjects ends)
    (world : σ) :
    List.Forall₂ (Vouched variant collected) subjects
      ((collect now newRunId number subjects ends).run world).1 := by
  refine forall₂_collect ?_ number h world
  intro subject result hresult number world
  cases result with
  | ok report => exact hresult report rfl
  | error message =>
      -- A crashed task is reported as aborted, which is no success.
      exact ⟨rfl, fun _ hsucceeded => nomatch hsucceeded⟩

/-! ### Tasks -/

section
variable {σ : Type} {pipeline : Pipeline (StateM σ)} {schedule : List Variant}

/-- All that the tasks of a run do is turns of the variants that are run. Each lane ends as its
task. -/
theorem tasks_in_turns (site : Site (StateM σ)) (trigger : Trigger)
    (hnodup : (selectedVariants pipeline.config pipeline.selection).Nodup)
    (hschedule : ∀ variant ∈ schedule,
      variant ∈ selectedVariants pipeline.config pipeline.selection)
    (world : σ) :
    let selected := selectedVariants pipeline.config pipeline.selection
    let race := openingRace pipeline site trigger schedule world
    let ends := (selected.mapM (restsOf site race (taskConfig pipeline))).run race.world
    ∃ turns, (∀ variant ∈ turns, variant ∈ selected) ∧
      let after := (Race.opening world).play site (taskConfig pipeline) turns
      ends.2 = after.world ∧
      List.Forall₂ (fun variant result => after.lanes variant = .ended result) selected ends.1 := by
  intro selected race ends
  have hsound : ∀ variant ∈ selected, (race.lanes variant).Sound (taskConfig pipeline) variant :=
    fun _ _ => Race.sound_play trivial
  obtain ⟨results, hrun, hended⟩ :=
    Race.run_rests site hnodup race (fun _ _ => rfl) hsound
  -- First the turns of the schedule, then all that is left of one variant after the other.
  refine ⟨countedTurns pipeline trigger schedule ++ Race.closingTurns selected, ?_, ?_⟩
  · intro variant hvariant
    rcases List.mem_append.mp hvariant with hfirst | hlast
    · exact hschedule variant (mem_of_mem_countedTurns hfirst)
    · exact Race.mem_closingTurns.mp hlast
  · rw [show ends = _ from hrun, Race.play_append]
    exact ⟨rfl, hended⟩

end

section
variable {σ : Type} {files : σ → FileSystem} {site : Site (StateM σ)} {config : Config}
  {variant : Variant} {turns : List Variant}
  (hsite : Workplace site files config.artifactPath) (hwell : WellFormed config)
  (hslash : ∀ variant ∈ config.variants, '/' ∉ variant.os.toList)
  (hvariant : variant ∈ config.variants)
include hsite hwell hslash hvariant

/-- A turn of another variant spares the outputs of this one, beside whichever variants it is
run. -/
theorem spares_turn (selected : List Variant) {other : Variant} (hother : other ∈ config.variants)
    (hne : other ≠ variant) {race : Race (Logged (Deed σ) σ)}
    (hsound : (race.lanes other).Sound { config with variants := selected } other) :
    SparesOutputs files config variant race.world
      (race.turn (loggedSite site) { config with variants := selected } other).world :=
  @spares_move σ files site { config with variants := selected } variant other hsite hwell.noSlash
    (hslash variant hvariant) (hslash other hother) (mt (hwell.os_inj hother hvariant) hne) _ hsound
    race.world

/-- Turns of other variants spare its outputs. -/
theorem spares_play (selected : List Variant) (hturns : ∀ other ∈ turns, other ∈ config.variants)
    (hnot : variant ∉ turns) (before : Logged (Deed σ) σ) :
    SparesOutputs files config variant before ((Race.opening before).play (loggedSite site)
      { config with variants := selected } turns).world := by
  induction turns using List.reverseRecOn with
  | nil => exact refl_of _ before
  | append_singleton init last ih =>
      obtain ⟨hinit, hlast⟩ := List.forall_mem_append.mp hturns
      rw [List.mem_append, List.mem_singleton, not_or] at hnot
      rw [Race.play_concat]
      exact (ih hinit hnot.1).trans (spares_turn hsite hwell hslash hvariant selected
        (hlast last List.mem_cons_self) (Ne.symm hnot.2) (Race.sound_play trivial))

/-- Turns of any variants keep track of this one. -/
theorem tracked_play (selected : List Variant) (hturns : ∀ other ∈ turns, other ∈ config.variants)
    (before : Logged (Deed σ) σ) :
    let race :=
      (Race.opening before).play (loggedSite site) { config with variants := selected } turns
    TracksOutputs files config variant before (race.lanes variant) race.world := by
  -- Turn by turn from the start: a turn of the variant is a move of its lane, and all others spare
  -- its outputs.
  induction turns using List.reverseRecOn with
  | nil => exact ⟨fun _ => refl_of _ before, nofun⟩
  | append_singleton init last ih =>
      obtain ⟨hinit, hlast⟩ := List.forall_mem_append.mp hturns
      intro race
      have htracked := ih hinit
      rw [show race = _ from Race.play_concat]
      by_cases heq : variant = last
      · subst heq
        rw [Race.lanes_turn_self]
        exact @Tracked.move σ files site { config with variants := selected } variant hsite
          hwell.noSlash (hslash variant hvariant) _ _ _ _ _ htracked (Race.sound_play trivial) rfl
      · rw [Race.lanes_turn_of_ne heq]
        exact htracked.spares (spares_turn hsite hwell hslash hvariant selected
          (hlast last List.mem_cons_self) (Ne.symm heq) (Race.sound_play trivial))
          (artifact_mem_outputs config variant)

end

/-! ### Saving reports -/

section
variable {σ : Type} {files : σ → FileSystem} {site : Site (StateM σ)} {config : Config}
  {variant : Variant} {commit : String} {paths : List Path} {target : Path}

/-- Saving a report spares the files that lie elsewhere. -/
theorem spares_save (hsite : Workplace site files config.artifactPath) (report : VariantReport)
    (helse : ∀ other ∈ paths, ∀ from', Path.resolve from' other ≠
      Path.resolve from' ((ReportStore.ofConfig config).pathFor report.variant.os)) :
    Moves (Order.Preimage Watched.world (Spares files paths target))
      ((ReportStore.ofConfig config).save
        (watchedSite (loggedSite site)).toFiles commit report) := by
  refine moves_save ?_ ?_
  · intro watched
    exact spares_createDirs hsite _ watched.world
  · intro watched
    exact spares_write hsite _ helse watched.world

variable (hsite : Workplace site files config.artifactPath) (hname : '/' ∉ config.binaryName.toList)
  (hvariant : '/' ∉ variant.os.toList)
include hsite hname hvariant

/-- Saving reports spares every artifact. -/
theorem spares_artifact_savedReports {reports : List VariantReport}
    (hreports : ∀ report ∈ reports, '/' ∉ report.variant.os.toList)
    (watched : Watched (Logged (Deed σ) σ)) :
    Spares files [(Artifact.ofVariant config variant).path] target watched.world
      (savedReports (loggedSite site) config commit reports watched).world := by
  refine moves_forM (R := Order.Preimage Watched.world (Spares files _ target))
    (fun report hreport => ?_) watched
  refine (spares_save hsite report fun other hother from' => ?_).bind fun _ => moves_pure _
  rw [List.mem_singleton.mp hother]
  exact resolve_artifact_ne_report hname hvariant (hreports report hreport) from'

/-- Saving reports of other variants spares the outputs of this one. -/
theorem spares_savedReports {reports : List VariantReport}
    (hreports : ∀ report ∈ reports, '/' ∉ report.variant.os.toList ∧ report.variant.os ≠ variant.os)
    (watched : Watched (Logged (Deed σ) σ)) :
    SparesOutputs files config variant watched.world
      (savedReports (loggedSite site) config commit reports watched).world := by
  refine moves_forM (R := Order.Preimage Watched.world (SparesOutputs files config variant))
    (fun report hreport => ?_) watched
  obtain ⟨hslash, hne⟩ := hreports report hreport
  refine (spares_save hsite report fun other hother from' => ?_).bind fun _ => moves_pure _
  simp only [outputsOf, List.mem_cons, List.not_mem_nil, or_false] at hother
  rcases hother with rfl | rfl
  · exact resolve_artifact_ne_report hname hvariant hslash from'
  · exact resolve_report_ne config hvariant hslash hne.symm from'

end

/-- Reports that are vouched for are about the variants, in their order. -/
theorem map_variant_of_vouched {variant : Variant} {collected : Prop} {subjects : List Variant}
    {reports : List VariantReport} (h : List.Forall₂ (Vouched variant collected) subjects reports) :
    reports.map (·.variant) = subjects := by
  induction h with
  | nil => rfl
  | cons hfirst _ ih => rw [List.map_cons, ih, hfirst.about]

section
variable {σ : Type} {files : σ → FileSystem} {site : Site (StateM σ)} {config : Config}
  {variant : Variant} {commit : String} {collected : Prop} {subjects : List Variant}
  {reports : List VariantReport}
  (hsite : Workplace site files config.artifactPath) (hwell : WellFormed config)
  (hslash : ∀ variant ∈ config.variants, '/' ∉ variant.os.toList)
  (hvariant : variant ∈ config.variants)
include hsite hwell hslash hvariant

/-- Saving reports of variants among which this one is not spares its outputs. -/
theorem spares_savedReports_of_vouched
    (h : List.Forall₂ (Vouched variant collected) subjects reports)
    (hsubjects : ∀ subject ∈ subjects, subject ∈ config.variants) (hnot : variant ∉ subjects)
    (watched : Watched (Logged (Deed σ) σ)) :
    SparesOutputs files config variant watched.world
      (savedReports (loggedSite site) config commit reports watched).world := by
  refine spares_savedReports hsite hwell.noSlash (hslash variant hvariant) ?_ watched
  intro report hreport
  have hsubject : report.variant ∈ subjects := by
    rw [← map_variant_of_vouched h]
    exact List.mem_map_of_mem hreport
  refine ⟨hslash _ (hsubjects _ hsubject), fun hos => ?_⟩
  rw [hwell.os_inj (hsubjects _ hsubject) hvariant hos] at hsubject
  exact hnot hsubject

/-- Of all reports that are saved, the one about this variant is stored in the end. -/
theorem filed_of_vouched (h : List.Forall₂ (Vouched variant collected) subjects reports)
    (hsubjects : ∀ subject ∈ subjects, subject ∈ config.variants) (hnodup : subjects.Nodup)
    (hmem : variant ∈ subjects) (watched : Watched (Logged (Deed σ) σ))
    (hnone : (savedReports (loggedSite site) config commit reports watched).refusals = []) :
    ∃ report ∈ reports, Vouched variant collected variant report ∧
      Holds (files (savedReports (loggedSite site) config commit reports watched).world.world)
        ((ReportStore.ofConfig config).pathFor variant.os)
        (StoredReport.mk commit report).bytes := by
  have hfiles := onFiles_logged hsite.toOnFiles
  induction h generalizing watched with
  | nil => exact absurd hmem List.not_mem_nil
  | @cons subject report rest others hfirst hothers ih =>
      obtain ⟨hsubject, hrest⟩ := List.forall_mem_cons.mp hsubjects
      obtain ⟨hnot, hnodup⟩ := List.nodup_cons.mp hnodup
      rw [savedReports_cons] at hnone ⊢
      by_cases heq : subject = variant
      · subst heq
        -- The report is stored here, and the ones that are saved behind it are about other
        -- variants.
        obtain ⟨-, refusals, hrefusals, hread⟩ :=
          save_spec hfiles (ReportStore.ofConfig config) commit report watched
        have hlater : SparesOutputs files config subject
            (savedReport (loggedSite site) config commit report watched).world
            (savedReports (loggedSite site) config commit others
              (savedReport (loggedSite site) config commit report watched)).world :=
          spares_savedReports_of_vouched hsite hwell hslash hvariant hothers hrest hnot _
        -- Nothing was refused in the end, so this report was not refused either.
        have hprefix := refusals_savedReports hfiles config commit others
          (savedReport (loggedSite site) config commit report watched)
        rw [hnone] at hprefix
        have hempty : refusals = [] :=
          (List.append_eq_nil_iff.mp (hrefusals.symm.trans (List.prefix_nil.mp hprefix))).2
        have hstored := holds_of_read (hread hempty)
        rw [hfirst.about] at hstored
        refine ⟨report, List.mem_cons_self, hfirst, ?_⟩
        exact (hlater.same _ (report_mem_outputs config subject) _).mpr hstored
      · obtain ⟨found, hfound, hvouched⟩ := ih hrest hnodup
          ((List.mem_cons.mp hmem).resolve_left (Ne.symm heq)) _ hnone
        exact ⟨found, List.mem_cons_of_mem _ hfound, hvouched⟩

end

/-! ### One run -/

section
variable {σ : Type} {files : σ → FileSystem} {site : Site (StateM σ)}
  {pipeline : Pipeline (StateM (Logged (Deed σ) σ))} {variant : Variant} {trigger : Trigger}
  {schedule : List Variant}
  (hschedule : ∀ other ∈ schedule, other ∈ selectedVariants pipeline.config pipeline.selection)
  (hsite : Workplace site files pipeline.config.artifactPath) (hwell : WellFormed pipeline.config)
  (hslash : ∀ variant ∈ pipeline.config.variants, '/' ∉ variant.os.toList)
  (hvariant : variant ∈ pipeline.config.variants)
include hschedule hsite hwell hslash hvariant

/-- A run of other variants spares the outputs of this one while they are run. -/
theorem spares_runSelected
    (hnot : variant ∉ selectedVariants pipeline.config pipeline.selection)
    (before : Logged (Deed σ) σ) :
    let race := openingRace pipeline (loggedSite site) trigger schedule before
    SparesOutputs files pipeline.config variant before
      (runSelected pipeline (loggedSite site) (restsOf (loggedSite site) race) race.world).2 := by
  obtain ⟨turns, hturns, hworld, -⟩ := tasks_in_turns (loggedSite site) trigger
    (nodup_selectedVariants hwell pipeline.selection) hschedule before
  have hplayed := spares_play hsite hwell hslash hvariant
    (selectedVariants pipeline.config pipeline.selection)
    (fun other hother => mem_variants_of_mem_selected (hturns other hother))
    (mt (hturns variant) hnot) before
  rw [← hworld] at hplayed
  exact hplayed.trans (moves_collect (spares_now hsite) (spares_newRunId hsite) 1 _ _ _)

/-- The reports of a run are vouched for. -/
theorem vouched_runSelected (before : Logged (Deed σ) σ) :
    let race := openingRace pipeline (loggedSite site) trigger schedule before
    let ran := runSelected pipeline (loggedSite site) (restsOf (loggedSite site) race) race.world
    List.Forall₂ (Vouched variant (∃ content, Collected files pipeline.config.buildOutput
        (Artifact.ofVariant pipeline.config variant).path content before ran.2))
      (selectedVariants pipeline.config pipeline.selection) ran.1 := by
  obtain ⟨turns, hturns, hworld, hended⟩ := tasks_in_turns (loggedSite site) trigger
    (nodup_selectedVariants hwell pipeline.selection) hschedule before
  let after := (Race.opening before).play (loggedSite site) (taskConfig pipeline) turns
  have htracked : TracksOutputs files pipeline.config variant before (after.lanes variant)
      after.world :=
    tracked_play hsite hwell hslash hvariant _
      (fun other hother => mem_variants_of_mem_selected (hturns other hother)) before
  refine vouched_collect _ _ 1 (hended.imp ?_) _
  intro subject result hlane report hreport
  rw [hreport] at hlane
  have habout : (after.lanes subject).About subject := Race.about_play trivial
  rw [show after.lanes subject = _ from hlane] at habout
  refine ⟨habout, ?_⟩
  rintro rfl hsucceeded
  obtain ⟨content, hcollected⟩ := htracked.collected report hlane hsucceeded
  rw [show after.world = _ from hworld.symm] at hcollected
  -- Reporting on the tasks spares what they have collected.
  exact ⟨content, hcollected.spares
    (moves_collect (spares_now hsite) (spares_newRunId hsite) 1 _ _ _)
    (artifact_mem_outputs _ subject)⟩

end

section
variable {σ : Type} {files : σ → FileSystem} {site : Site (StateM σ)}
  {pipeline : Pipeline (StateM σ)} {variant : Variant} {push : Push}
  (hsheltered : Sheltered pipeline site files)
  (hwell : WellFormed pipeline.config)
  (hslash : ∀ variant ∈ pipeline.config.variants, '/' ∉ variant.os.toList)
  (hvariant : variant ∈ pipeline.config.variants)
include hsheltered hwell hslash hvariant

/-- The end of a run spares the outputs of every variant. -/
theorem spares_finish (part : Part) (trigger : Trigger) (reports : List VariantReport)
    (defer : Bool) :
    Moves (Order.Preimage Watched.world (SparesOutputs files pipeline.config variant))
      ((watchedPipeline (partOf (loggedPipeline pipeline) part)).finish trigger reports defer) := by
  have houtside {α : Type} {action : StateM σ α}
      (h : StaysOut files pipeline.config.artifactPath action) :
      Moves (SparesOutputs files pipeline.config variant) (unlogged action) :=
    spares_unlogged fun world => (h world).sameFiles hwell.noSlash (hslash variant hvariant)
  refine moves_finish (fun watched => houtside hsheltered.clock watched.world) ?_
  intro logged hlogged descriptor artifacts watched
  obtain ⟨publisher, hpublisher, rfl⟩ := Option.map_eq_some_iff.mp hlogged
  exact houtside (hsheltered.publisher publisher hpublisher descriptor artifacts) watched.world

omit hsheltered hwell hslash hvariant in
/-- Only selected variants have turns. -/
theorem mem_selected_of_mem_schedule {other : Variant} (h : other ∈ push.schedule pipeline.config) :
    other ∈ selectedVariants pipeline.config push.part.selection :=
  of_decide_eq_true (List.mem_filter.mp h).2

omit hsheltered hwell hslash hvariant in
/-- A call that runs nothing leaves everything as it is. -/
theorem run_push_idle (h : ¬ (push.trigger.tagBlank = true ∧
      askedPlaces (partOf (loggedPipeline pipeline) push.part) ≤ maxPlaces))
    (watched : Watched (Logged (Deed σ) σ)) :
    ((runPush pipeline site push).run watched).2 = watched := by
  let part := partOf (loggedPipeline pipeline) push.part
  let race := openingRace part (loggedSite site) push.trigger (push.schedule pipeline.config)
    watched.world
  have hrun : (runPush pipeline site push).run watched =
      (watchedRun part (loggedSite site) (restsOf (loggedSite site) race) push.trigger).run
        { watched with world := race.world } := run_watchedRace _ _ _ _ _
  -- No turns are taken either.
  have hrace : race = Race.opening watched.world := openingRace_of_not _ _ h watched.world
  rw [hrun, hrace]
  by_cases htag : push.trigger.tagBlank = true
  · have hplaces : maxPlaces < askedPlaces part := not_le.mp fun hle => h ⟨htag, hle⟩
    rw [run_tooManyPlaces (loggedSite site) htag hplaces]
    rfl
  · rw [run_tagged (loggedSite site) (Bool.eq_false_iff.mpr htag)]
    rfl

/-- A call that does not run a variant spares its outputs. -/
theorem spares_push (hnot : ¬ Runs pipeline.config variant push) :
    Moves (Order.Preimage Watched.world (SparesOutputs files pipeline.config variant))
      (runPush pipeline site push) := by
  intro watched
  let part := partOf (loggedPipeline pipeline) push.part
  show SparesOutputs files pipeline.config variant watched.world
    ((runPush pipeline site push).run watched).2.world
  by_cases hran : push.trigger.tagBlank = true ∧ askedPlaces part ≤ maxPlaces
  · obtain ⟨htag, hplaces⟩ := hran
    let race := openingRace part (loggedSite site) push.trigger (push.schedule pipeline.config)
      watched.world
    let opened : Watched (Logged (Deed σ) σ) := { watched with world := race.world }
    let tasks := restsOf (loggedSite site) race
    have hrun : (runPush pipeline site push).run watched = _ :=
      (run_watchedRace _ _ _ _ _).trans (run_eq (loggedSite site) htag (not_lt.mpr hplaces) opened)
    rw [hrun]
    have hmissing : variant ∉ selectedVariants part.config part.selection :=
      fun hselected => hnot ⟨htag, hselected, hplaces⟩
    -- The variant is not among the tasks, nor among the reports that are saved.
    have htasks := @spares_runSelected σ files site part variant push.trigger _
      (fun _ => mem_selected_of_mem_schedule) hsheltered.workplace hwell hslash hvariant hmissing
      watched.world
    have hvouched := @vouched_runSelected σ files site part variant push.trigger _
      (fun _ => mem_selected_of_mem_schedule) hsheltered.workplace hwell hslash hvariant
      watched.world
    have hsaved : SparesOutputs files pipeline.config variant _
        (recordRun part (loggedSite site) tasks push.trigger opened).world :=
      spares_savedReports_of_vouched hsheltered.workplace hwell hslash hvariant hvouched
        (fun _ => mem_variants_of_mem_selected) hmissing _
    have hended := spares_finish hsheltered hwell hslash hvariant push.part push.trigger
      (runSelected part (loggedSite site) tasks opened.world).1 (defers part)
      (recordRun part (loggedSite site) tasks push.trigger opened)
    exact htasks.trans (hsaved.trans hended)
  · rw [run_push_idle hran]
    exact refl_of _ watched.world

/-- A call that runs a variant leaves its report, and the artifact that goes with it. -/
theorem deposited_push (hruns : Runs pipeline.config variant push)
    (watched : Watched (Logged (Deed σ) σ))
    (hnone : ((runPush pipeline site push).run watched).2.refusals = []) :
    ∃ report, Deposited files pipeline.config variant push.trigger.commit report
      ((runPush pipeline site push).run watched).1 watched.world
      ((runPush pipeline site push).run watched).2.world := by
  let part := partOf (loggedPipeline pipeline) push.part
  have hplaces : ¬ maxPlaces < askedPlaces part := not_lt.mpr hruns.placed
  let race := openingRace part (loggedSite site) push.trigger (push.schedule pipeline.config)
    watched.world
  let opened : Watched (Logged (Deed σ) σ) := { watched with world := race.world }
  let tasks := restsOf (loggedSite site) race
  let reports := (runSelected part (loggedSite site) tasks opened.world).1
  let recorded := recordRun part (loggedSite site) tasks push.trigger opened
  let ended := ((watchedPipeline part).finish push.trigger reports (defers part)).run recorded
  have hrun : (runPush pipeline site push).run watched = (.ok ended.1, ended.2) :=
    (run_watchedRace _ _ _ _ _).trans (run_eq (loggedSite site) hruns.untagged hplaces opened)
  rw [hrun] at hnone ⊢
  have hshown : ended.1.variants = reports := variants_finish _ _ _ _ _
  have hsaved : recorded.refusals = [] := by
    rw [← keeps_refusals_finish recorded]
    exact hnone
  have hvouched := @vouched_runSelected σ files site part variant push.trigger _
    (fun _ => mem_selected_of_mem_schedule) hsheltered.workplace hwell hslash hvariant watched.world
  obtain ⟨report, hreport, ⟨habout, hcollected⟩, hfiled⟩ :=
    filed_of_vouched hsheltered.workplace hwell hslash hvariant hvouched
      (fun _ => mem_variants_of_mem_selected) (nodup_selectedVariants hwell _)
    hruns.selected _ hsaved
  have hended := spares_finish hsheltered hwell hslash hvariant push.part push.trigger reports
    (defers part) recorded
  refine ⟨report, habout, ⟨_, rfl, hshown ▸ hreport⟩, ?_, fun hsucceeded => ?_⟩
  · exact (hended.same _ (report_mem_outputs _ variant) _).mpr hfiled
  · obtain ⟨content, htasks⟩ := hcollected rfl hsucceeded
    have hreports : ∀ report ∈ reports, '/' ∉ report.variant.os.toList := by
      intro other hother
      have hmem : other.variant ∈ selectedVariants part.config part.selection := by
        rw [← map_variant_of_vouched hvouched]
        exact List.mem_map_of_mem hother
      exact hslash _ (mem_variants_of_mem_selected hmem)
    -- Reports are saved beside the artifact, and nothing comes to it in the end.
    have hartifact : Spares files [(Artifact.ofVariant pipeline.config variant).path]
        (Artifact.ofVariant pipeline.config variant).path _ recorded.world :=
      spares_artifact_savedReports hsheltered.workplace hwell.noSlash (hslash variant hvariant)
        hreports _
    have hrecorded := htasks.spares hartifact List.mem_cons_self
    exact ⟨content, hrecorded.spares hended (artifact_mem_outputs _ variant)⟩

end

end ReleasePipeline.Proofs
