import ReleasePipeline.Proofs.Pipeline.Ending

/-!
# `ReleasePipeline.Proofs.Pipeline.Aggregate`: when an aggregation publishes

An aggregation looks at files that earlier runs left behind, possibly on other hosts. It changes
none of them, so the files are given by a `Snapshot`: what is read at each path, and whether it is
a regular file. Anything may stand at any path.

`aggregate_publishes_exactly_when` is the main statement. The publish stage is reached exactly when
the trigger is untagged and on the released branch, there are variants, and the files vouch for
every one of them (`Vouches`). Then the artifacts are those of the configured variants at their
places on this host, whatever paths the stored reports carried. Every untagged aggregation shows
one report for each configured variant, in their order, and `Shown` says which.
-/

set_option autoImplicit false

namespace ReleasePipeline.Proofs

/-- What files there are. -/
structure Snapshot where
  read : Path → Except OsError ByteArray
  isFile : Path → Bool

section
variable {σ : Type}

/-- A site on which files are read as the snapshot of the world says, and which leaves them alone
when it is asked for the time or for an identifier. -/
structure Legible (site : Site (StateM σ)) (view : σ → Snapshot) : Prop where
  read : ∀ path world, (site.read path).run world = ((view world).read path, world)
  isFile : ∀ path world, (site.isFile path).run world = ((view world).isFile path, world)
  newRunId : Keeps view site.newRunId
  now : Keeps view site.now

/-- A site with given files. Whatever else it does is left open. -/
def frozen (snapshot : Snapshot) (site : Site (StateM σ)) : Site (StateM σ) :=
  { site with
    read := fun path => pure (snapshot.read path)
    isFile := fun path => pure (snapshot.isFile path) }

/-- Given files are read as they are given. -/
theorem legible_frozen (snapshot : Snapshot) (site : Site (StateM σ)) :
    Legible (frozen snapshot site) fun _ => snapshot :=
  ⟨fun _ _ => rfl, fun _ _ => rfl, fun _ => rfl, fun _ => rfl⟩

end

section
variable (snapshot : Snapshot) (config : Config) (commit : String) (variant : Variant)

/-- A report is stored for a variant: the file is there, it can be read, and it is about the
commit. -/
def Stored (stored : StoredReport) : Prop :=
  ∃ bytes, snapshot.read ((ReportStore.ofConfig config).pathFor variant.os) = .ok bytes ∧
    StoredReport.ofBytes bytes = .ok stored ∧ stored.commit = commit

/-- The artifact of a variant lies at its place on this host. -/
def AtPlace : Prop :=
  snapshot.isFile (Artifact.ofVariant config variant).path = true

/-- The files vouch for a variant: a report of success is stored, and the artifact is there. -/
def Vouches : Prop :=
  ∃ stored, Stored snapshot config commit variant stored ∧ stored.report.stage = .done ∧
    stored.report.artifact ≠ none ∧ AtPlace snapshot config variant

/-- A stored report does not count: none is stored, or the one that is claims a success of which
there is no artifact here. -/
def Rejected : Prop :=
  ∀ stored, Stored snapshot config commit variant stored →
    stored.report.succeeded = true ∧ ¬ AtPlace snapshot config variant

/-- A report with the artifact, if it has one to show, at its place on this host. -/
def relocated (report : VariantReport) : VariantReport :=
  if report.succeeded then { report with artifact := some (.ofVariant config variant) } else report

/-- What an aggregation shows of a variant: the stored report with the artifact at its place on
this host, or, if that one does not count, that the variant was aborted. -/
inductive Shown : VariantReport → Prop where
  | counted {stored} (h : Stored snapshot config commit variant stored)
      (place : stored.report.succeeded = true → AtPlace snapshot config variant) :
      Shown (relocated config variant stored.report)
  | rejected {runId now reason} (h : Rejected snapshot config commit variant) :
      Shown (.aborted runId now variant reason)

end

section
variable {snapshot : Snapshot} {config : Config} {commit : String} {variant : Variant}

/-- At most one report is stored for a variant. -/
theorem Stored.unique {a b : StoredReport} (ha : Stored snapshot config commit variant a)
    (hb : Stored snapshot config commit variant b) : a = b := by
  obtain ⟨bytes, hread, hdecode, -⟩ := ha
  obtain ⟨bytes', hread', hdecode', -⟩ := hb
  rw [hread] at hread'
  cases hread'
  rw [hdecode] at hdecode'
  cases hdecode'
  rfl

/-- A report that was moved succeeded when it did before. -/
theorem succeeded_relocated (report : VariantReport) :
    (relocated config variant report).succeeded = report.succeeded := by
  unfold relocated
  by_cases h : report.succeeded = true
  · rw [if_pos h, h]
    have hstage : (report.stage == .done) = true := (Bool.and_eq_true_iff.mp h).1
    show (report.stage == .done && true) = true
    rw [hstage]
    rfl
  · rw [if_neg h]

/-- A variant that was aborted did not succeed. -/
theorem not_succeeded_aborted (runId : RunId) (now : Instant) (reason : String) :
    (VariantReport.aborted runId now variant reason).succeeded = false :=
  rfl

/-- The report that is shown of a variant is one of success exactly when the files vouch for the
variant. -/
theorem Shown.succeeded_iff {report : VariantReport}
    (h : Shown snapshot config commit variant report) :
    report.succeeded = true ↔ Vouches snapshot config commit variant := by
  cases h with
  | @counted stored hstored hplace =>
      rw [succeeded_relocated]
      constructor
      · intro hsucceeded
        obtain ⟨hstage, hartifact⟩ := Bool.and_eq_true_iff.mp hsucceeded
        exact ⟨stored, hstored, eq_of_beq hstage, Option.isSome_iff_ne_none.mp hartifact,
          hplace hsucceeded⟩
      · rintro ⟨other, hother, hstage, hartifact, -⟩
        -- There is only one stored report, so the one that vouches is the one that is shown.
        obtain rfl := hstored.unique hother
        exact Bool.and_eq_true_iff.mpr
          ⟨beq_iff_eq.mpr hstage, Option.isSome_iff_ne_none.mpr hartifact⟩
  | rejected hrejected =>
      rw [not_succeeded_aborted]
      refine ⟨fun h => absurd h Bool.false_ne_true, ?_⟩
      rintro ⟨stored, hstored, -, -, hplace⟩
      exact absurd hplace (hrejected stored hstored).2

/-- The artifact in a report of success is the one of the variant on this host. -/
theorem Shown.artifact_of_succeeded {report : VariantReport}
    (h : Shown snapshot config commit variant report) (hsucceeded : report.succeeded = true) :
    report.artifact = some (.ofVariant config variant) := by
  cases h with
  | counted =>
      rw [succeeded_relocated] at hsucceeded
      rw [relocated, if_pos hsucceeded]
  | rejected => exact absurd hsucceeded Bool.false_ne_true

end

/-! ### Loading reports -/

section
variable {σ : Type} {view : σ → Snapshot} {site : Site (StateM σ)} {config : Config}
  {commit : String} {variant : Variant}

/-- A stored report is moved to this host, or rejected because its artifact is not here. -/
theorem run_vouch (hsite : Legible site view) (report : VariantReport) (watched : Watched σ) :
    ∃ result, (ReportStore.vouch (watchedSite site).toFiles config variant report).run watched =
        (result, watched) ∧
      (((report.succeeded = true → AtPlace (view watched.world) config variant) ∧
          result = .ok (relocated config variant report)) ∨
        ((report.succeeded = true ∧ ¬ AtPlace (view watched.world) config variant) ∧
          ∃ error, result = .error error)) := by
  unfold ReportStore.vouch relocated
  by_cases hsucceeded : report.succeeded = true
  · have hfile : ((watchedSite site).isFile (Artifact.ofVariant config variant).path).run watched =
        ((view watched.world).isFile (Artifact.ofVariant config variant).path, watched) := by
      show (quietly (site.isFile _)).run watched = _
      rw [run_quietly, hsite.isFile]
    rw [if_pos hsucceeded, if_pos hsucceeded]
    -- A report of success is moved to the place on this host, if the artifact is there.
    by_cases hplace : AtPlace (view watched.world) config variant
    · rw [show (view watched.world).isFile _ = true from hplace] at hfile
      exact ⟨_, run_bind_of hfile _, .inl ⟨fun _ => hplace, rfl⟩⟩
    · rw [show (view watched.world).isFile _ = false from Bool.eq_false_iff.mpr hplace] at hfile
      exact ⟨_, run_bind_of hfile _, .inr ⟨⟨hsucceeded, hplace⟩, _, rfl⟩⟩
  · rw [if_neg hsucceeded, if_neg hsucceeded]
    exact ⟨_, rfl, .inl ⟨fun h => absurd h hsucceeded, rfl⟩⟩

/-- The report of a variant is read, and either it counts or it is rejected. Nothing else
happens. -/
theorem run_read (hsite : Legible site view) (watched : Watched σ) :
    ∃ result, ((ReportStore.ofConfig config).read (watchedSite site).toFiles config commit
        variant).run watched = (result, watched) ∧
      ((∃ stored, Stored (view watched.world) config commit variant stored ∧
          (stored.report.succeeded = true → AtPlace (view watched.world) config variant) ∧
          result = .ok (relocated config variant stored.report)) ∨
        (Rejected (view watched.world) config commit variant ∧
          ∃ error, result = .error error)) := by
  let path := (ReportStore.ofConfig config).pathFor variant.os
  have hread : ((watchedSite site).read path).run watched =
      ((view watched.world).read path, watched) := by
    show (quietly (site.read path)).run watched = _
    rw [run_quietly, hsite.read]
  cases hbytes : (view watched.world).read path with
  | error error =>
      rw [hbytes] at hread
      -- Where nothing can be read nothing is stored.
      refine ⟨_, run_bind_of hread _, .inr ⟨?_, _, rfl⟩⟩
      rintro stored ⟨bytes, hother, -⟩
      cases hbytes.symm.trans hother
  | ok bytes =>
      rw [hbytes] at hread
      -- What is read and decoded is the only report that can be stored there.
      have honly : ∀ stored, Stored (view watched.world) config commit variant stored →
          StoredReport.ofBytes bytes = .ok stored ∧ stored.commit = commit := by
        rintro stored ⟨other, hother, hdecode, hcommit⟩
        cases hbytes.symm.trans hother
        exact ⟨hdecode, hcommit⟩
      cases hdecode : StoredReport.ofBytes bytes with
      | error fault =>
          have hrun : ((ReportStore.ofConfig config).read (watchedSite site).toFiles config commit
              variant).run watched = (.error (.unreadable path fault), watched) := by
            refine Eq.trans (run_bind_of hread _) ?_
            simp only [hdecode]
            rfl
          refine ⟨_, hrun, .inr ⟨?_, _, rfl⟩⟩
          intro stored hstored
          cases hdecode.symm.trans (honly stored hstored).1
      | ok stored =>
          have hrun : ((ReportStore.ofConfig config).read (watchedSite site).toFiles config commit
              variant).run watched = (if stored.commit = commit then
                ReportStore.vouch (watchedSite site).toFiles config variant stored.report
              else pure (.error (.otherCommit path stored.commit commit))).run watched := by
            refine Eq.trans (run_bind_of hread _) ?_
            simp only [hdecode]
            rfl
          by_cases hcommit : stored.commit = commit
          · -- This is the stored report, and vouching for it decides whether it counts.
            have hstored : Stored (view watched.world) config commit variant stored :=
              ⟨bytes, hbytes, hdecode, hcommit⟩
            obtain ⟨result, hvouch, hresult⟩ := run_vouch hsite stored.report watched
            have heq := hrun.trans (run_ite_of hcommit _ _ watched)
            refine ⟨result, heq.trans hvouch, hresult.imp ?_ ?_⟩
            · rintro ⟨hplace, rfl⟩
              exact ⟨stored, hstored, hplace, rfl⟩
            · rintro ⟨hmissing, herror⟩
              refine ⟨?_, herror⟩
              intro other hother
              rw [← hstored.unique hother]
              exact hmissing
          · have heq := hrun.trans (run_ite_of_not hcommit _ _ watched)
            refine ⟨_, heq, .inr ⟨?_, _, rfl⟩⟩
            intro other hother
            obtain ⟨hsame, hcommit'⟩ := honly other hother
            cases hdecode.symm.trans hsame
            exact absurd hcommit' hcommit

/-- What stays the same while reports are loaded: the files, the calls and the refusals. -/
def watchedView (view : σ → Snapshot) (watched : Watched σ) :
    Snapshot × List PublishCall × List OsError :=
  (view watched.world, watched.calls, watched.refusals)

/-- Something quiet keeps what it keeps in the world. -/
theorem keeps_watchedView_quietly {α : Type} {action : StateM σ α} (h : Keeps view action) :
    Keeps (watchedView view) (quietly action) := by
  intro watched
  show (view (action.run watched.world).2, watched.calls, watched.refusals) = _
  rw [h watched.world]
  rfl

/-- A report is loaded as it is to be shown, and nothing changes that matters. -/
theorem run_load (hsite : Legible site view) (watched : Watched σ) :
    ∃ report after, ((ReportStore.ofConfig config).load (watchedSite site) config commit
        variant).run watched = (report, after) ∧
      Shown (view watched.world) config commit variant report ∧
      watchedView view after = watchedView view watched := by
  obtain ⟨result, hread, hcounted | hrejected⟩ := run_read hsite watched
  · obtain ⟨stored, hstored, hplace, rfl⟩ := hcounted
    -- A report that counts is shown at once, in the world where it was read.
    exact ⟨_, watched, run_bind_of hread _, .counted hstored hplace, rfl⟩
  · obtain ⟨hrejected, error, rfl⟩ := hrejected
    -- Otherwise an aborted report takes the time and a new identifier.
    refine ⟨_, _, (run_bind_of hread _).trans rfl, .rejected hrejected, ?_⟩
    exact ((keeps_watchedView_quietly hsite.now) _).trans
      ((keeps_watchedView_quietly hsite.newRunId) watched)

/-- All reports are loaded as they are to be shown. -/
theorem run_loadAll (hsite : Legible site view) (variants : List Variant) (watched : Watched σ) :
    ∃ reports after, (variants.mapM ((ReportStore.ofConfig config).load (watchedSite site) config
        commit)).run watched = (reports, after) ∧
      List.Forall₂ (Shown (view watched.world) config commit) variants reports ∧
      watchedView view after = watchedView view watched := by
  induction variants generalizing watched with
  | nil => exact ⟨[], watched, rfl, .nil, rfl⟩
  | cons variant rest ih =>
      -- The files are the same after each report, so the rest is shown of the files at the start.
      obtain ⟨report, loaded, hload, hshown, hkept⟩ := run_load hsite watched
      obtain ⟨reports, after, hrest, hall, hafter⟩ := ih loaded
      refine ⟨report :: reports, after, ?_, ?_, hafter.trans hkept⟩
      · rw [run_mapM_cons, hload, hrest]
      · rw [show view loaded.world = view watched.world from congrArg Prod.fst hkept] at hall
        exact .cons hshown hall

/-! ### The aggregation as a whole -/

/-- All reports that are shown succeeded exactly when the files vouch for all variants. -/
theorem forall_vouches_iff {snapshot : Snapshot} {variants : List Variant}
    {reports : List VariantReport}
    (h : List.Forall₂ (Shown snapshot config commit) variants reports) :
    (∀ report ∈ reports, report.succeeded = true) ↔
      ∀ variant ∈ variants, Vouches snapshot config commit variant := by
  induction h with
  | nil => simp
  | cons hfirst _ ih => simp only [List.forall_mem_cons, hfirst.succeeded_iff, ih]

/-- Where all reports that are shown succeeded, their artifacts are those of the variants on this
host. -/
theorem filterMap_artifact_of_shown {snapshot : Snapshot} {variants : List Variant}
    {reports : List VariantReport}
    (h : List.Forall₂ (Shown snapshot config commit) variants reports)
    (hall : ∀ report ∈ reports, report.succeeded = true) :
    reports.filterMap (·.artifact) = variants.map (Artifact.ofVariant config) := by
  induction h with
  | nil => rfl
  | cons hfirst _ ih =>
      obtain ⟨hreport, hrest⟩ := List.forall_mem_cons.mp hall
      rw [List.filterMap_cons, hfirst.artifact_of_succeeded hreport, List.map_cons, ih hrest]

variable {pipeline : Pipeline (StateM σ)} {trigger : Trigger}

/-- A tagged trigger aggregates nothing. -/
theorem aggregate_tagged (site : Site (StateM σ)) (htag : trigger.tagBlank = false)
    (watched : Watched σ) :
    (watchedAggregate pipeline site trigger).run watched = (.skippedByGate, watched) := by
  unfold watchedAggregate Pipeline.aggregate Gate.isEnabled
  rw [htag]
  rfl

/-- Any other aggregation ends on the reports that are shown, in a world with the same files where
no publisher was called. -/
theorem aggregate_ends (pipeline : Pipeline (StateM σ)) (hsite : Legible site view)
    (htag : trigger.tagBlank = true) (watched : Watched σ) :
    ∃ reports loaded,
      List.Forall₂ (Shown (view watched.world) pipeline.config trigger.commit)
        pipeline.config.variants reports ∧
      watchedView view loaded = watchedView view watched ∧
      (watchedAggregate pipeline site trigger).run watched =
        ((watchedPipeline pipeline).finish trigger reports false).run loaded := by
  obtain ⟨reports, loaded, hload, hshown, hkept⟩ :=
    run_loadAll hsite pipeline.config.variants watched
  refine ⟨reports, loaded, hshown, hkept, ?_⟩
  unfold watchedAggregate Pipeline.aggregate Gate.isEnabled
  rw [htag, if_pos rfl]
  exact run_bind_of hload _

/-- The publish stage of an aggregation is reached under conditions on the trigger and the files
alone. -/
theorem releasable_aggregate_iff {snapshot : Snapshot} {reports : List VariantReport}
    (h : List.Forall₂ (Shown snapshot pipeline.config trigger.commit) pipeline.config.variants
      reports) :
    Releasable pipeline.config trigger reports ↔
      trigger.tagBlank = true ∧ trigger.branch = pipeline.config.targetBranch ∧
        pipeline.config.variants ≠ [] ∧
        ∀ variant ∈ pipeline.config.variants,
          Vouches snapshot pipeline.config trigger.commit variant := by
  have hnil : reports = [] ↔ pipeline.config.variants = [] := by
    rw [← List.length_eq_zero_iff, ← List.length_eq_zero_iff, h.length_eq]
  rw [← forall_vouches_iff h]
  constructor
  · intro hreleasable
    exact ⟨hreleasable.untagged, hreleasable.onTarget, mt hnil.mpr hreleasable.reported,
      hreleasable.succeeded⟩
  · rintro ⟨htag, hbranch, hvariants, hall⟩
    exact ⟨htag, mt hnil.mp hvariants, hall, hbranch⟩

/-- An aggregation calls the publisher under conditions on the trigger and the files alone. -/
theorem calls_aggregate_ne_nil_iff (pipeline : Pipeline (StateM σ)) (hsite : Legible site view)
    {watched : Watched σ} (hcalls : watched.calls = []) :
    ((watchedAggregate pipeline site trigger).run watched).2.calls ≠ [] ↔
      (trigger.tagBlank = true ∧ trigger.branch = pipeline.config.targetBranch ∧
        pipeline.config.variants ≠ [] ∧ ∀ variant ∈ pipeline.config.variants,
          Vouches (view watched.world) pipeline.config trigger.commit variant) ∧
        pipeline.publisher.isSome = true := by
  by_cases htag : trigger.tagBlank = true
  · obtain ⟨reports, loaded, hshown, hkept, hfinish⟩ := aggregate_ends pipeline hsite htag watched
    have hloaded : loaded.calls = [] := (congrArg (fun kept => kept.2.1) hkept).trans hcalls
    obtain ⟨outcome, after, hrun⟩ : ∃ outcome after,
        (watchedAggregate pipeline site trigger).run watched = (outcome, after) := ⟨_, _, rfl⟩
    -- Loading calls no publisher, so what is called is called at the end.
    have hended := ended_finish hloaded (hfinish.symm.trans hrun)
    rw [hrun, ← releasable_aggregate_iff hshown]
    constructor
    · intro hcalled
      by_contra hnot
      exact hcalled (hended.silent fun hdue => hnot ⟨hdue.1.1, hdue.2⟩)
    · rintro ⟨hreleasable, hpublisher⟩
      obtain ⟨call, now, hcall, -⟩ := hended.call ⟨hreleasable, rfl⟩ hpublisher
      rw [hcall]
      exact List.cons_ne_nil _ _
  · rw [aggregate_tagged site (Bool.eq_false_iff.mpr htag)]
    exact ⟨fun h => absurd hcalls h, fun h => absurd h.1.1 htag⟩

end

/-- **When an aggregation publishes.** Whatever the files are, the publish stage of an aggregation
is reached exactly when the tag is absent or blank, the branch is the released one, there are
variants, and the files vouch for each of them. With a publisher there is then one call, with the
artifacts of the configured variants on this host in their order; otherwise there is no call.
Every untagged aggregation shows one report for each configured variant, in their order, which is
either the stored one or says that the variant was aborted. A tagged trigger changes nothing. -/
theorem aggregate_publishes_exactly_when {σ : Type} (pipeline : Pipeline (StateM σ))
    (site : Site (StateM σ)) (snapshot : Snapshot) (branch : String) (tag : Option String)
    (commit : String) (world : σ) :
    let config := pipeline.config
    let untagged := ∀ text ∈ tag, ∀ c ∈ text.toList, Text.isBlank c = true
    let reached := untagged ∧ branch = config.targetBranch ∧ config.variants ≠ [] ∧
      ∀ variant ∈ config.variants, Vouches snapshot config commit variant
    let run := (watchedAggregate pipeline (frozen snapshot site) (.ofPush branch tag commit)).run
      (unwatched world)
    (run.1.release.isSome = true ↔ reached) ∧
    (reached ∧ pipeline.publisher.isSome = true → ∃ call now, run.2.calls = [call] ∧
      run.1.release = some call.descriptor ∧ call.descriptor = .compute config commit now ∧
      call.artifacts = config.variants.map (Artifact.ofVariant config)) ∧
    (¬ (reached ∧ pipeline.publisher.isSome = true) → run.2.calls = []) ∧
    (untagged → List.Forall₂ (Shown snapshot config commit) config.variants run.1.variants) ∧
    (¬ untagged → run = (.skippedByGate, unwatched world)) := by
  intro config untagged reached run
  have htagged : (Trigger.ofPush branch tag commit).tagBlank = true ↔ untagged :=
    tagBlank_ofPush branch tag commit
  by_cases huntagged : untagged
  · obtain ⟨reports, loaded, hshown, hkept, hfinish⟩ :=
      aggregate_ends pipeline (legible_frozen snapshot site) (htagged.mpr huntagged)
        (unwatched world)
    have hcalls : loaded.calls = [] := congrArg (fun kept => kept.2.1) hkept
    have hrun : run = (run.1, run.2) := rfl
    -- All five statements are read off how the end goes, with these reports and without earlier
    -- calls.
    have hended : Ended pipeline (.ofPush branch tag commit) reports false run.1 run.2.calls :=
      ended_finish hcalls (hfinish.symm.trans hrun)
    have hreached : Releasable config (.ofPush branch tag commit) reports ↔ reached := by
      rw [releasable_aggregate_iff hshown, htagged]
      rfl
    refine ⟨?_, ?_, ?_, ?_, fun hnot => absurd huntagged hnot⟩
    · rw [hended.release, hreached]
      simp
    · rintro ⟨hdue, hpublisher⟩
      have hreleasable := hreached.mpr hdue
      obtain ⟨call, now, hcall, hrelease, hdescriptor, hartifacts⟩ :=
        hended.call ⟨hreleasable, rfl⟩ hpublisher
      refine ⟨call, now, hcall, hrelease, hdescriptor, ?_⟩
      rw [hartifacts, filterMap_artifact_of_shown hshown hreleasable.succeeded]
    · intro hnot
      exact hended.silent fun h => hnot ⟨hreached.mp h.1.1, h.2⟩
    · intro _
      rw [hended.variants]
      exact hshown
  · have hrun : run = (.skippedByGate, unwatched world) :=
      aggregate_tagged _ (Bool.eq_false_iff.mpr (mt htagged.mp huntagged)) (unwatched world)
    rw [hrun]
    refine ⟨?_, fun h => absurd h.1.1 huntagged, fun _ => rfl, fun h => absurd h huntagged,
      fun _ => rfl⟩
    simp [PipelineOutcome.skippedByGate, reached, huntagged]

end ReleasePipeline.Proofs
