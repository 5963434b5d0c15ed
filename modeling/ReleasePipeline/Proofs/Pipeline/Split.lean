import Mathlib.Data.List.Infix
import Mathlib.Order.RelClasses
import ReleasePipeline.Proofs.Pipeline.Steady

/-!
# `ReleasePipeline.Proofs.Pipeline.Split`: building variants separately

Variants may be built in separate runs, each of which leaves some out or puts publishing off. An
aggregation then ends on the reports that the runs left behind. `separate_runs_agree` says that
this comes to the same as one full run, which ends on the reports it has in its hands. The world,
the clock and the publisher are arbitrary, and so are the order of the separate runs, how often
they build a variant, and how many variants they run at once. Of the execution service it is asked
that it is `Steady`.

A run that does not publish saves its reports and does no more (`run_of_defers`), and then all is
`Kept` of the variants it selected and of those it was kept of before (`kept_recordRun`).
`kept_runParts` is the induction over the runs. Both the aggregation and the full run end on
faithful reports of all variants, and `endedAlike_finish` compares the two ends.
-/

set_option autoImplicit false

namespace ReleasePipeline.Proofs

open Pipeline (selectedVariants conclude statusOfPublish)

/-! ### The separate runs -/

/-- What one of several runs of a pipeline is asked for. -/
structure Part where
  selection : List String
  deferPublish : Bool
  cap : Option Nat

section
variable {σ : Type} (pipeline : Pipeline (StateM σ)) (site : Site (StateM σ))
  (execute : Config → Variant → StateM σ TaskEnd) (trigger : Trigger)

/-- The pipeline as a part of it is run. -/
def partOf (part : Part) : Pipeline (StateM σ) :=
  { pipeline with
    selection := part.selection
    deferPublish := part.deferPublish
    cap := part.cap }

/-- Runs the parts of a pipeline one after the other. -/
def runParts (parts : List Part) : StateM (Watched σ) (List (Except RunError PipelineOutcome)) :=
  parts.mapM fun part => watchedRun (partOf pipeline part) site execute trigger

/-- A part does not publish: it leaves variants out, or puts publishing off. -/
def IsPartial (config : Config) (part : Part) : Prop :=
  ¬ NamesAll config part.selection ∨ part.deferPublish = true

end

section
variable {σ : Type} {pipeline : Pipeline (StateM σ)} {site : Site (StateM σ)}
  {execute : Config → Variant → StateM σ TaskEnd} {trigger : Trigger}
  {files : σ → FileSystem} {stageOf : Variant → Stage} {watched : Watched σ}

/-- A run of such a part is told not to publish. -/
theorem defers_of_isPartial {part : Part} (h : IsPartial pipeline.config part) :
    defers (partOf pipeline part) = true := by
  rw [← Bool.not_eq_false, defers_eq_false_iff]
  rintro ⟨hall, hdefer⟩
  rcases h with hmissing | hdeferred
  · exact hmissing hall
  · cases hdefer.symm.trans hdeferred

/-- A run that does not publish saves its reports and does no more, unless it breaks down with
nothing done. -/
theorem run_of_defers (site : Site (StateM σ)) (execute : Config → Variant → StateM σ TaskEnd)
    (htag : trigger.tagBlank = true) (hdefers : defers pipeline = true) (watched : Watched σ) :
    (∃ outcome, (watchedRun pipeline site execute trigger).run watched =
        (.ok outcome, recordRun pipeline site execute trigger watched)) ∨
      ∃ error, (watchedRun pipeline site execute trigger).run watched =
        (.error error, watched) := by
  by_cases hplaces : maxPlaces < askedPlaces pipeline
  · exact .inr ⟨_, run_tooManyPlaces site htag hplaces watched⟩
  · left
    -- A run that puts publishing off has a status at once, so its end changes nothing.
    have hnot : ¬ (Releasable pipeline.config trigger
        (runSelected pipeline site execute watched.world).1 ∧ defers pipeline = false) := by
      rw [hdefers]
      exact fun hdue => nomatch hdue.2
    obtain ⟨status, hsettled, -⟩ := conclude_of_not_releasable hnot
    have hfinish := run_finish_settled hsettled (recordRun pipeline site execute trigger watched)
    rw [run_eq site htag hplaces watched]
    exact ⟨_, congrArg (fun ended => (Except.ok (Prod.fst ended), Prod.snd ended)) hfinish⟩

/-- The files once the selected variants were run are those that running them left. -/
theorem files_runSelected (hsite : OnFiles site files) (world : σ) :
    files (runSelected pipeline site execute world).2 =
      files (((selectedVariants pipeline.config pipeline.selection).mapM
        (executeBeside pipeline.config execute pipeline.selection)).run world).2 :=
  moves_collect hsite.now.moves hsite.newRunId.moves 1 _ _ _

/-- The reports of a run are faithful, since each of its tasks ends on a faithful one. -/
theorem faithful_runSelected (hsteady : Steady pipeline.config stageOf files execute)
    (site : Site (StateM σ)) (world : σ) :
    List.Forall₂ (Faithful pipeline.config stageOf)
      (selectedVariants pipeline.config pipeline.selection)
      (runSelected pipeline site execute world).1 :=
  faithful_collect site.now site.newRunId 1 (ends_mapM hsteady (fun _ h => h) world) _

/-- What was refused before the reports of a run are saved stays on the account. -/
theorem refusals_recordRun (hsite : OnFiles site files) :
    watched.refusals <+: (recordRun pipeline site execute trigger watched).refusals :=
  let ran := runSelected pipeline site execute watched.world
  refusals_savedReports hsite pipeline.config trigger.commit ran.1 { watched with world := ran.2 }

/-- Where every report could be saved, all is kept of the variants that were run, and of those it
was kept of before. -/
theorem kept_recordRun (pipeline : Pipeline (StateM σ)) (hsite : OnFiles site files)
    (hsteady : Steady pipeline.config stageOf files execute) (hwell : WellFormed pipeline.config)
    (hslash : ∀ variant ∈ pipeline.config.variants, '/' ∉ variant.os.toList)
    (hnone : (recordRun pipeline site execute trigger watched).refusals = []) {other : Variant}
    (hother : other ∈ pipeline.config.variants)
    (h : other ∈ selectedVariants pipeline.config pipeline.selection ∨
      Kept pipeline.config stageOf trigger.commit (files watched.world) other) :
    Kept pipeline.config stageOf trigger.commit
      (files (recordRun pipeline site execute trigger watched).world) other := by
  have hselected : ∀ variant ∈ selectedVariants pipeline.config pipeline.selection,
      variant ∈ pipeline.config.variants :=
    fun _ => mem_variants_of_mem_selected
  have hreports := faithful_runSelected hsteady site watched.world
  have hfiles := @files_runSelected σ pipeline site execute files hsite watched.world
  constructor
  · -- Artifacts are followed through the tasks first, and then through the saving of reports.
    refine built_savedReports hsite hwell.noSlash hslash hselected hreports hother ?_
    show Built _ _ (files (runSelected pipeline site execute watched.world).2) other
    rw [hfiles]
    exact built_mapM hsteady (fun _ h => h) hother watched.world (h.imp_right Kept.built)
  · -- Reports of variants that were run are saved anew, and the others outlast the tasks.
    refine filed_savedReports hsite hslash hwell hselected hreports hother hnone ?_
    by_cases hrun : other ∈ selectedVariants pipeline.config pipeline.selection
    · exact .inl hrun
    · right
      show Filed _ _ _ (files (runSelected pipeline site execute watched.world).2) other
      rw [hfiles]
      exact filed_mapM hsteady (fun _ h => h) hother hrun (h.resolve_left hrun).filed

/-! ### One separate run -/

/-- A run that is told not to publish calls no publisher. -/
theorem calls_run (site : Site (StateM σ)) (execute : Config → Variant → StateM σ TaskEnd)
    (htag : trigger.tagBlank = true) (hdefers : defers pipeline = true) (watched : Watched σ) :
    ((watchedRun pipeline site execute trigger).run watched).2.calls = watched.calls := by
  obtain ⟨outcome, hrun⟩ | ⟨error, hrun⟩ := run_of_defers site execute htag hdefers watched
  · rw [hrun]
    exact calls_recordRun pipeline site execute trigger watched
  · rw [hrun]

/-- What was refused before a run stays on the account. -/
theorem refusals_run (pipeline : Pipeline (StateM σ))
    (execute : Config → Variant → StateM σ TaskEnd) (trigger : Trigger)
    (hsite : OnFiles site files) :
    Moves (Order.Preimage Watched.refusals (· <+: ·))
      (watchedRun pipeline site execute trigger) := by
  intro watched
  -- A run that is skipped or breaks down saves nothing, and the end of any other one saves nothing
  -- more.
  cases htag : trigger.tagBlank with
  | false =>
      rw [run_tagged site htag watched]
      exact List.prefix_rfl
  | true =>
      by_cases hplaces : maxPlaces < askedPlaces pipeline
      · rw [run_tooManyPlaces site htag hplaces watched]
        exact List.prefix_rfl
      · rw [run_eq site htag hplaces watched]
        show _ <+: (((watchedPipeline pipeline).finish trigger _ _).run _).2.refusals
        rw [keeps_refusals_finish]
        exact refusals_recordRun hsite

/-- Behind a run that could save all its reports, everything is kept of a variant that it ran or of
which everything was kept before. -/
theorem kept_run (pipeline : Pipeline (StateM σ)) (hsite : OnFiles site files)
    (hsteady : Steady pipeline.config stageOf files execute) (hwell : WellFormed pipeline.config)
    (hslash : ∀ variant ∈ pipeline.config.variants, '/' ∉ variant.os.toList)
    (htag : trigger.tagBlank = true) (hdefers : defers pipeline = true) (watched : Watched σ)
    (hended : ∃ outcome,
      ((watchedRun pipeline site execute trigger).run watched).1 = .ok outcome)
    (hnone : ((watchedRun pipeline site execute trigger).run watched).2.refusals = [])
    {other : Variant} (hother : other ∈ pipeline.config.variants)
    (h : other ∈ selectedVariants pipeline.config pipeline.selection ∨
      Kept pipeline.config stageOf trigger.commit (files watched.world) other) :
    Kept pipeline.config stageOf trigger.commit
      (files ((watchedRun pipeline site execute trigger).run watched).2.world) other := by
  obtain ⟨outcome, hrun⟩ | ⟨error, hrun⟩ := run_of_defers site execute htag hdefers watched
  · rw [hrun] at hnone ⊢
    exact kept_recordRun pipeline hsite hsteady hwell hslash hnone hother h
  · -- A run that broke down has no outcome.
    rw [hrun] at hended
    obtain ⟨outcome, heq⟩ := hended
    cases heq

/-! ### All separate runs -/

/-- The runs behind the first one start where it ended. -/
theorem runParts_cons (part : Part) (rest : List Part) (watched : Watched σ) :
    let first := (watchedRun (partOf pipeline part) site execute trigger).run watched
    let others := (runParts pipeline site execute trigger rest).run first.2
    (runParts pipeline site execute trigger (part :: rest)).run watched =
      (first.1 :: others.1, others.2) :=
  run_mapM_cons _ part rest watched

variable {parts : List Part}

/-- Separate runs call no publisher. -/
theorem calls_runParts (htag : trigger.tagBlank = true)
    (hpartial : ∀ part ∈ parts, IsPartial pipeline.config part) (watched : Watched σ) :
    ((runParts pipeline site execute trigger parts).run watched).2.calls = watched.calls := by
  induction parts generalizing watched with
  | nil => rfl
  | cons part rest ih =>
      obtain ⟨hpart, hrest⟩ := List.forall_mem_cons.mp hpartial
      rw [runParts_cons]
      exact (ih hrest _).trans (calls_run site execute htag (defers_of_isPartial hpart) watched)

/-- What was refused in one run stays on the account of all later ones. -/
theorem refusals_runParts (pipeline : Pipeline (StateM σ))
    (execute : Config → Variant → StateM σ TaskEnd) (trigger : Trigger) (hsite : OnFiles site files)
    (parts : List Part) :
    Moves (Order.Preimage Watched.refusals (· <+: ·))
      (runParts pipeline site execute trigger parts) :=
  moves_mapM fun part _ => refusals_run (partOf pipeline part) execute trigger hsite

/-- Where every separate run came to its end and every report could be saved, all is kept of the
variants that the runs selected. -/
theorem kept_runParts (hsite : OnFiles site files)
    (hsteady : Steady pipeline.config stageOf files execute) (hwell : WellFormed pipeline.config)
    (hslash : ∀ variant ∈ pipeline.config.variants, '/' ∉ variant.os.toList)
    (htag : trigger.tagBlank = true)
    (hpartial : ∀ part ∈ parts, IsPartial pipeline.config part) (watched : Watched σ)
    (hended : ∀ result ∈ ((runParts pipeline site execute trigger parts).run watched).1,
      ∃ outcome, result = .ok outcome)
    (hnone : ((runParts pipeline site execute trigger parts).run watched).2.refusals = [])
    {other : Variant} (hother : other ∈ pipeline.config.variants)
    (h : (∃ part ∈ parts, other ∈ selectedVariants pipeline.config part.selection) ∨
      Kept pipeline.config stageOf trigger.commit (files watched.world) other) :
    Kept pipeline.config stageOf trigger.commit
      (files ((runParts pipeline site execute trigger parts).run watched).2.world) other := by
  -- What the first run keeps, and what was kept before, is what the later runs start from.
  induction parts generalizing watched with
  | nil =>
      refine h.resolve_left ?_
      rintro ⟨part, hpart, -⟩
      exact List.not_mem_nil hpart
  | cons part rest ih =>
      obtain ⟨hpart, hrest⟩ := List.forall_mem_cons.mp hpartial
      rw [runParts_cons] at hended hnone ⊢
      obtain ⟨hfirst, hothers⟩ := List.forall_mem_cons.mp hended
      have hprefix := refusals_runParts pipeline execute trigger hsite rest
        ((watchedRun (partOf pipeline part) site execute trigger).run watched).2
      unfold Order.Preimage at hprefix
      rw [hnone] at hprefix
      refine ih hrest _ hothers hnone ?_
      -- Either a later run selects the variant, or the first run has to keep it.
      by_cases hlater : ∃ part ∈ rest, other ∈ selectedVariants pipeline.config part.selection
      · exact .inl hlater
      · right
        refine kept_run (partOf pipeline part) hsite hsteady hwell hslash htag
          (defers_of_isPartial hpart) watched hfirst (List.prefix_nil.mp hprefix) hother
          (h.imp_left ?_)
        rintro ⟨found, hfound, hselected⟩
        rcases List.mem_cons.mp hfound with rfl | hfound
        · exact hselected
        · exact absurd ⟨found, hfound, hselected⟩ hlater

end

/-! ### The aggregation and the full run -/

section
variable {σ : Type}

/-- Two ends of a pipeline that agree in all that can be compared. Their clocks may show different
times, and their publishers may answer differently. -/
structure EndedAlike (pipeline : Pipeline (StateM σ)) (commit : String)
    (first second : PipelineOutcome × Watched σ) : Prop where
  /-- The same variants came equally far, in the same order. -/
  states : first.1.variants.map (fun report => (report.variant, report.stage)) =
    second.1.variants.map fun report => (report.variant, report.stage)
  /-- The publisher was called equally often, and was handed the same artifacts. -/
  artifacts : first.2.calls.map (·.artifacts) = second.2.calls.map (·.artifacts)
  /-- The releases were described at what the clock showed, so at equal times alike. -/
  release : (first.1.release = none ∧ second.1.release = none) ∨ ∃ a b : σ,
    first.1.release = some (.compute pipeline.config commit (pipeline.clock.run a).1) ∧
      second.1.release = some (.compute pipeline.config commit (pipeline.clock.run b).1)
  /-- The release that was handed to the publisher is the one in the outcome. -/
  handed : (∀ call ∈ first.2.calls, first.1.release = some call.descriptor) ∧
    ∀ call ∈ second.2.calls, second.1.release = some call.descriptor
  /-- For the same answers the status is the same, and so is the exit code. -/
  ending : first.2.calls.map (·.answer) = second.2.calls.map (·.answer) →
    first.1.status = second.1.status ∧ first.1.exitCode = second.1.exitCode

variable {pipeline : Pipeline (StateM σ)} {trigger : Trigger} {reports others : List VariantReport}

/-- Reports that lead to the same let a pipeline end alike, whatever the worlds are like. -/
theorem endedAlike_finish
    (hstates : reports.map (fun report => (report.variant, report.stage)) =
      others.map fun report => (report.variant, report.stage))
    (hconclude : conclude pipeline.config trigger reports false =
      conclude pipeline.config trigger others false)
    {first second : Watched σ} (hfirst : first.calls = []) (hsecond : second.calls = []) :
    EndedAlike pipeline trigger.commit
      (((watchedPipeline pipeline).finish trigger reports false).run first)
      (((watchedPipeline pipeline).finish trigger others false).run second) := by
  cases hc : conclude pipeline.config trigger others false with
  | settled status =>
      -- Neither end touches its world, so no publisher was called in either.
      rw [run_finish_settled (hconclude.trans hc), run_finish_settled hc]
      refine ⟨hstates, ?_, .inl ⟨rfl, rfl⟩, ⟨?_, ?_⟩, fun _ => ⟨rfl, exitCode_congr rfl⟩⟩
      · rw [hfirst, hsecond]
      · rw [hfirst]
        exact fun _ h => nomatch h
      · rw [hsecond]
        exact fun _ h => nomatch h
  | publish artifacts =>
      cases hp : pipeline.publisher with
      | none =>
          rw [run_finish_no_publisher (hconclude.trans hc) hp, run_finish_no_publisher hc hp]
          refine ⟨hstates, ?_, .inr ⟨first.world, second.world, rfl, rfl⟩, ⟨?_, ?_⟩,
            fun _ => ⟨rfl, exitCode_congr rfl⟩⟩
          · show first.calls.map _ = second.calls.map _
            rw [hfirst, hsecond]
          · show ∀ call ∈ first.calls, _
            rw [hfirst]
            exact fun _ h => nomatch h
          · show ∀ call ∈ second.calls, _
            rw [hsecond]
            exact fun _ h => nomatch h
      | some publisher =>
          -- Each end is one call with the same artifacts, so the answers decide on the status.
          rw [run_finish_publisher (hconclude.trans hc) hp, run_finish_publisher hc hp, hfirst,
            hsecond]
          refine ⟨hstates, ?_, .inr ⟨first.world, second.world, rfl, rfl⟩, ⟨?_, ?_⟩, ?_⟩
          · show [artifacts] = [artifacts]
            rfl
          · intro call hcall
            rw [List.mem_singleton.mp hcall]
          · intro call hcall
            rw [List.mem_singleton.mp hcall]
          · intro hanswers
            have hanswer := List.head_eq_of_cons_eq hanswers
            have hstatus := congrArg statusOfPublish hanswer
            exact ⟨hstatus, exitCode_congr hstatus⟩

end

/-- **Separate runs and an aggregation come to the same as one full run.** Let a valid configuration
have no separator in its identifiers, and let the execution service be steady. Take any number of
runs that together select every variant, each of which leaves variants out or puts publishing off.
None of them calls the publisher. If all of them come to their end and all reports can be saved, the
aggregation afterwards ends like one full run, wherever that one starts from. Only a full run that
asks for more places than there can be does not end. -/
theorem separate_runs_agree {σ : Type} (pipeline : Pipeline (StateM σ)) (site : Site (StateM σ))
    (execute : Config → Variant → StateM σ TaskEnd) (files : σ → FileSystem)
    (stageOf : Variant → Stage) (trigger : Trigger) (parts : List Part) (full : Part)
    (world fresh : σ) (hsite : OnFiles site files) (hvalid : pipeline.config.validate = .ok ())
    (hslash : ∀ variant ∈ pipeline.config.variants, '/' ∉ variant.os.toList)
    (hsteady : Steady pipeline.config stageOf files execute) (htag : trigger.tagBlank = true)
    (hpartial : ∀ part ∈ parts, IsPartial pipeline.config part)
    (hcover : ∀ variant ∈ pipeline.config.variants, ∃ part ∈ parts,
      variant ∈ selectedVariants pipeline.config part.selection)
    (hfull : ¬ IsPartial pipeline.config full) :
    let separate := (runParts pipeline site execute trigger parts).run (unwatched world)
    let gathered := (watchedAggregate pipeline site trigger).run separate.2
    let whole := (watchedRun (partOf pipeline full) site execute trigger).run (unwatched fresh)
    separate.2.calls = [] ∧
    ((∀ result ∈ separate.1, ∃ outcome, result = .ok outcome) → separate.2.refusals = [] →
      match whole.1 with
      | .error _ => maxPlaces < askedPlaces (partOf pipeline full)
      | .ok outcome => EndedAlike pipeline trigger.commit gathered (outcome, whole.2)) := by
  intro separate gathered whole
  have hwell : WellFormed pipeline.config := validate_eq_ok.mp hvalid
  have hcalls : separate.2.calls = [] := calls_runParts htag hpartial (unwatched world)
  refine ⟨hcalls, fun hended hnone => ?_⟩
  by_cases hplaces : maxPlaces < askedPlaces (partOf pipeline full)
  · have hwhole : whole = _ := run_tooManyPlaces site htag hplaces (unwatched fresh)
    rw [hwhole]
    exact hplaces
  · -- The full run selects all variants and publishes.
    have hnames : NamesAll pipeline.config full.selection ∧ full.deferPublish = false := by
      rw [IsPartial, not_or, not_not, Bool.not_eq_true] at hfull
      exact hfull
    have hdefers : defers (partOf pipeline full) = false :=
      (defers_eq_false_iff (partOf pipeline full)).mpr hnames
    have hselected : selectedVariants pipeline.config full.selection = pipeline.config.variants :=
      selectedVariants_eq hnames.1
    have hwhole : whole = _ := run_eq site htag hplaces (unwatched fresh)
    have hreports := @faithful_runSelected σ (partOf pipeline full) execute files stageOf hsteady
      site fresh
    rw [show selectedVariants (partOf pipeline full).config (partOf pipeline full).selection =
      pipeline.config.variants from hselected] at hreports
    rw [hwhole, hdefers]
    -- The aggregation shows what the separate runs left behind.
    obtain ⟨shown, loaded, hshown, hkept, hgathered⟩ :=
      aggregate_ends pipeline hsite.legible htag separate.2
    have hfaithful : List.Forall₂ (Faithful pipeline.config stageOf) pipeline.config.variants
        shown := by
      refine faithful_of_forall_shown hshown fun variant hvariant => ?_
      exact kept_runParts hsite hsteady hwell hslash htag hpartial (unwatched world) hended hnone
        hvariant (.inl (hcover variant hvariant))
    have hloaded : loaded.calls = [] :=
      (congrArg (fun kept => kept.2.1) hkept).trans hcalls
    have hgathered : gathered = _ := hgathered
    rw [hgathered]
    refine endedAlike_finish ?_ ?_ hloaded ?_
    · rw [states_of_faithful hfaithful]
      exact (states_of_faithful hreports).symm
    · exact conclude_eq_of_faithful trigger hfaithful hreports
    · exact calls_recordRun (partOf pipeline full) site execute trigger (unwatched fresh)

/-! ### A rehearsal of it -/

/-- A configuration whose artifacts lie at the root, where nothing is ever in the way. -/
def rootedConfig : Config :=
  { Config.ofBinary "seeker" with artifactDir := ⟨"/"⟩ }

/-- An execution service that puts an empty artifact in its place, and reports success. -/
def rootedExecute (config : Config) (variant : Variant) : StateM Rehearsal.World TaskEnd :=
  fun world =>
    let artifact := Artifact.ofVariant config variant
    (.ok ⟨.ofNat world.drawn, variant, .done, [.pending, .done], [], some artifact, []⟩,
      { world with files := world.files.put [artifact.fileName] (.file ByteArray.empty) })

/-- A pipeline that publishes to the host of a rehearsal. -/
def rootedPipeline : Pipeline (StateM Rehearsal.World) where
  config := rootedConfig
  selection := []
  deferPublish := false
  cap := none
  publisher := some (Publish.publisher Rehearsal.World.hostAccess Rehearsal.World.fileAccess)
  clock := pure .epoch

/-- A world with nothing in it. -/
def rootedWorld : Rehearsal.World :=
  ⟨.empty [], .ofReleases [], [], 0⟩

/-- A site on which no command can be run. -/
def rootedSite : Site (StateM Rehearsal.World) :=
  Rehearsal.World.site fun files _ => (.crashed "no shell", files)

/-- A push to the released branch. -/
def rootedTrigger : Trigger :=
  ⟨"master", true, "1a2b3c4"⟩

/-- No output of one variant is on the way to an output of another one. -/
theorem outputs_apart : ∀ variant ∈ rootedConfig.variants, ∀ other ∈ rootedConfig.variants,
    other ≠ variant → ∀ path ∈ outputsOf rootedConfig other, path.isAbsolute = true ∧
      [rootedConfig.artifactName variant] ∉ placesOn [] path.names := by
  decide

/-- It makes no difference to these variants when they are run, or beside which others, since no
output of one is on the way to one of the other. -/
theorem steady_rooted :
    Steady rootedConfig (fun _ => .done) Rehearsal.World.files rootedExecute where
  ends _ _ _ _ := ⟨rfl, rfl, rfl⟩
  leaves selection variant hvariant world := by
    intro _
    have hvariants : rootedConfig.variants = [.osx, .linux] := rfl
    have hmem := mem_variants_of_mem_selected hvariant
    rw [hvariants, List.mem_cons, List.mem_singleton] at hmem
    rcases hmem with rfl | rfl
    · exact ⟨ByteArray.empty, rfl⟩
    · exact ⟨ByteArray.empty, rfl⟩
  others selection variant hvariant world other hother hne path hpath content h := by
    obtain ⟨habsolute, hapart⟩ :=
      outputs_apart variant (mem_variants_of_mem_selected hvariant) other hother hne path hpath
    -- An artifact at the root is not on the way to any output of the other variant.
    refine read_put _ ?_ h
    unfold FileSystem.start
    rw [if_pos habsolute]
    exact hapart

/-- The two variants, each built by a run of its own. -/
def rootedParts : List Part :=
  [⟨["osx"], false, none⟩, ⟨["linux"], false, some 1⟩]

/-- The state of an empty world after the two runs, and what they came to. -/
def rootedRuns : List (Except RunError PipelineOutcome) × Watched Rehearsal.World :=
  (runParts rootedPipeline rootedSite rootedExecute rootedTrigger rootedParts).run
    (unwatched rootedWorld)

/-- Both runs come to their end, and save all their reports. -/
theorem rootedRuns_ended :
    (∀ result ∈ rootedRuns.1, ∃ outcome, result = .ok outcome) ∧ rootedRuns.2.refusals = [] := by
  have hall : rootedRuns.1.all (fun result => result.toOption.isSome) = true := by rfl
  have hnone : rootedRuns.2.refusals = [] := by rfl
  refine ⟨fun result hresult => ?_, hnone⟩
  have hsome := List.all_eq_true.mp hall result hresult
  cases result with
  | error error => cases hsome
  | ok outcome => exact ⟨outcome, rfl⟩

/-- One full run instead of the two, and what it comes to. -/
def rootedWhole : Except RunError PipelineOutcome × Watched Rehearsal.World :=
  (watchedRun (partOf rootedPipeline ⟨[], false, none⟩) rootedSite rootedExecute
    rootedTrigger).run (unwatched rootedWorld)

/-- In an empty world, building the two variants in two runs and aggregating ends like one full
run. -/
theorem separate_runs_agree_rooted :
    rootedRuns.2.calls = [] ∧ ∃ outcome, rootedWhole.1 = .ok outcome ∧
      EndedAlike rootedPipeline rootedTrigger.commit
        ((watchedAggregate rootedPipeline rootedSite rootedTrigger).run rootedRuns.2)
        (outcome, rootedWhole.2) := by
  have hpartial : ∀ part ∈ rootedParts, IsPartial rootedConfig part := by
    unfold IsPartial NamesAll
    decide
  have hcover : ∀ variant ∈ rootedConfig.variants, ∃ part ∈ rootedParts,
      variant ∈ selectedVariants rootedConfig part.selection := by
    decide
  have hfull : ¬ IsPartial rootedConfig ⟨[], false, none⟩ := by
    unfold IsPartial NamesAll
    decide
  have hplaces : ¬ maxPlaces < askedPlaces (partOf rootedPipeline ⟨[], false, none⟩) := by
    decide
  obtain ⟨hended, hnone⟩ := rootedRuns_ended
  have hboth := separate_runs_agree rootedPipeline rootedSite rootedExecute
    Rehearsal.World.files (fun _ => .done) rootedTrigger rootedParts ⟨[], false, none⟩ rootedWorld
    rootedWorld (onFiles_rehearsal _) (by decide) (by decide) steady_rooted rfl hpartial hcover
    hfull
  have hagree : match rootedWhole.1 with
      | .error _ => maxPlaces < askedPlaces (partOf rootedPipeline ⟨[], false, none⟩)
      | .ok outcome => EndedAlike rootedPipeline rootedTrigger.commit
          ((watchedAggregate rootedPipeline rootedSite rootedTrigger).run rootedRuns.2)
          (outcome, rootedWhole.2) := hboth.2 hended hnone
  cases hwhole : rootedWhole.1 with
  | error error =>
      rw [hwhole] at hagree
      exact absurd hagree hplaces
  | ok outcome =>
      rw [hwhole] at hagree
      exact ⟨hboth.1, outcome, rfl, hagree⟩

end ReleasePipeline.Proofs
