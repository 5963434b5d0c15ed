import ReleasePipeline.Proofs.Pipeline.Run
import ReleasePipeline.Proofs.ReportStore

/-!
# `ReleasePipeline.Proofs.Pipeline.Steady`: variants that come to the same in every run

An execution service is `Steady` when it makes no difference to a variant when it is run and beside
which other ones. Every variant then comes to one stage. If that is the last one, its artifact is
there afterwards, and the outputs of the other variants are let be. Apart from that a report may be
different each time, so all that is known of one is that it is `Faithful`.

Two things are followed from one run to the next. The artifact of a variant that is done is there
(`Built`), and a faithful report of the variant is stored (`Filed`). Running a variant and saving a
report are the steps, and each step comes with what it does to these two. `built_mapM`,
`filed_mapM`, `built_savedReports` and `filed_savedReports` draw the steps together.
`faithful_of_forall_shown` says what they are for: where both hold, an aggregation shows faithful
reports, and by `conclude_eq_of_faithful` these lead to the same as any others.
-/

set_option autoImplicit false

namespace ReleasePipeline.Proofs

open Pipeline (selectedVariants conclude record)

section
variable (config : Config) (stageOf : Variant → Stage)

/-- A report says of a variant how far it came, and has its artifact exactly if it is done. -/
structure Faithful (variant : Variant) (report : VariantReport) : Prop where
  names : report.variant = variant
  stage : report.stage = stageOf variant
  artifact : report.artifact =
    if stageOf variant = .done then some (.ofVariant config variant) else none

/-- A task ends on a faithful report. One that crashes counts as aborted. -/
def EndsFaithful (variant : Variant) : TaskEnd → Prop
  | .ok report => Faithful config stageOf variant report
  | .error _ => stageOf variant = .failed .aborted

/-- The files that the runs of a variant leave behind. -/
def outputsOf (variant : Variant) : List Path :=
  [(Artifact.ofVariant config variant).path, (ReportStore.ofConfig config).pathFor variant.os]

/-- The artifact of a variant is there if the variant is done. -/
def Built (fs : FileSystem) (variant : Variant) : Prop :=
  stageOf variant = .done → ∃ content,
    fs.read (Artifact.ofVariant config variant).path = .ok content

/-- Runs a variant beside the other ones that a selection names. -/
def executeBeside {σ : Type} (execute : Config → Variant → StateM σ TaskEnd)
    (selection : List String) (variant : Variant) : StateM σ TaskEnd :=
  execute { config with variants := selectedVariants config selection } variant

/-- An execution service for which it makes no difference when a variant is run, or beside which
other ones. -/
structure Steady {σ : Type} (files : σ → FileSystem)
    (execute : Config → Variant → StateM σ TaskEnd) : Prop where
  ends : ∀ selection, ∀ variant ∈ selectedVariants config selection, ∀ world,
    EndsFaithful config stageOf variant
      ((executeBeside config execute selection variant).run world).1
  /-- A variant that is done has left its artifact. -/
  leaves : ∀ selection, ∀ variant ∈ selectedVariants config selection, ∀ world,
    Built config stageOf (files ((executeBeside config execute selection variant).run world).2)
      variant
  /-- What belongs to other variants can be read as before. -/
  others : ∀ selection, ∀ variant ∈ selectedVariants config selection, ∀ world,
    ∀ other ∈ config.variants, other ≠ variant → ∀ path ∈ outputsOf config other, ∀ content,
      (files world).read path = .ok content →
        (files ((executeBeside config execute selection variant).run world).2).read path =
          .ok content

/-- The artifact is one of the two outputs of a variant. -/
theorem artifact_mem_outputs (variant : Variant) :
    (Artifact.ofVariant config variant).path ∈ outputsOf config variant :=
  List.mem_cons_self

/-- The stored report is the other one. -/
theorem report_mem_outputs (variant : Variant) :
    (ReportStore.ofConfig config).pathFor variant.os ∈ outputsOf config variant :=
  List.mem_cons_of_mem _ List.mem_cons_self

/-- A faithful report of a variant is stored for a commit. -/
def Filed (commit : String) (fs : FileSystem) (variant : Variant) : Prop :=
  ∃ report, Faithful config stageOf variant report ∧
    fs.read ((ReportStore.ofConfig config).pathFor variant.os) =
      .ok (StoredReport.mk commit report).bytes

/-- All that an aggregation needs of a variant is there. -/
structure Kept (commit : String) (fs : FileSystem) (variant : Variant) : Prop where
  built : Built config stageOf fs variant
  filed : Filed config stageOf commit fs variant

end

/-! ### Running variants -/

section
variable {σ : Type} {config : Config} {stageOf : Variant → Stage} {files : σ → FileSystem}
  {execute : Config → Variant → StateM σ TaskEnd} {selection : List String} {commit : String}

/-- A task that ends builds its own variant, and the artifacts of the others can be read as before.
-/
theorem built_execute (hsteady : Steady config stageOf files execute) {variant other : Variant}
    (hvariant : variant ∈ selectedVariants config selection) (hother : other ∈ config.variants)
    (world : σ) (h : other = variant ∨ Built config stageOf (files world) other) :
    Built config stageOf (files
      ((executeBeside config execute selection variant).run world).2) other := by
  intro hdone
  by_cases heq : other = variant
  · subst heq
    exact hsteady.leaves selection other hvariant world hdone
  · obtain ⟨content, hread⟩ := (h.resolve_left heq) hdone
    exact ⟨content, hsteady.others selection variant hvariant world other hother heq _
      (artifact_mem_outputs config other) content hread⟩

/-- What was stored of the other variants can be read as before, too. -/
theorem filed_execute (hsteady : Steady config stageOf files execute) {variant other : Variant}
    (hvariant : variant ∈ selectedVariants config selection) (hother : other ∈ config.variants)
    (hne : other ≠ variant) {world : σ} (h : Filed config stageOf commit (files world) other) :
    Filed config stageOf commit (files
      ((executeBeside config execute selection variant).run world).2) other := by
  obtain ⟨report, hfaithful, hread⟩ := h
  exact ⟨report, hfaithful, hsteady.others selection variant hvariant world other hother hne _
    (report_mem_outputs config other) _ hread⟩

/-- Running variants one after the other, each ends on a faithful report. -/
theorem ends_mapM (hsteady : Steady config stageOf files execute) {variants : List Variant}
    (hvariants : ∀ variant ∈ variants, variant ∈ selectedVariants config selection) (world : σ) :
    List.Forall₂ (EndsFaithful config stageOf) variants
      ((variants.mapM (executeBeside config execute selection)).run world).1 :=
  forall₂_run_mapM
    (fun variant hvariant => hsteady.ends selection variant (hvariants variant hvariant))
    world

/-- The artifacts of the variants that were run are there, and others that were there still are. -/
theorem built_mapM (hsteady : Steady config stageOf files execute) {variants : List Variant}
    (hvariants : ∀ variant ∈ variants, variant ∈ selectedVariants config selection)
    {other : Variant} (hother : other ∈ config.variants) (world : σ)
    (h : other ∈ variants ∨ Built config stageOf (files world) other) :
    Built config stageOf (files
      ((variants.mapM (executeBeside config execute selection)).run world).2) other := by
  induction variants generalizing world with
  | nil => exact h.resolve_left List.not_mem_nil
  | cons variant rest ih =>
      obtain ⟨hvariant, hrest⟩ := List.forall_mem_cons.mp hvariants
      rw [run_mapM_cons]
      refine ih hrest _ ?_
      -- A variant may be run again later; otherwise its artifact has to outlast the other runs.
      by_cases hlater : other ∈ rest
      · exact .inl hlater
      · rw [List.mem_cons, or_iff_left hlater] at h
        exact .inr (built_execute hsteady hvariant hother world h)

/-- Reports of variants that were not run are still stored. -/
theorem filed_mapM (hsteady : Steady config stageOf files execute) {variants : List Variant}
    (hvariants : ∀ variant ∈ variants, variant ∈ selectedVariants config selection)
    {other : Variant} (hother : other ∈ config.variants) (hnot : other ∉ variants) {world : σ}
    (h : Filed config stageOf commit (files world) other) :
    Filed config stageOf commit (files
      ((variants.mapM (executeBeside config execute selection)).run world).2) other := by
  induction variants generalizing world with
  | nil => exact h
  | cons variant rest ih =>
      obtain ⟨hvariant, hrest⟩ := List.forall_mem_cons.mp hvariants
      rw [List.mem_cons, not_or] at hnot
      obtain ⟨hne, hlater⟩ := hnot
      rw [run_mapM_cons]
      exact ih hrest hlater (filed_execute hsteady hvariant hother hne h)

/-- A task that ended well is reported on by itself, and one that crashed as aborted. Either way the
report is faithful. -/
theorem faithful_reportTask (now : StateM σ Instant) (newRunId : StateM σ RunId) (number : Nat)
    {variant : Variant} {result : TaskEnd} (h : EndsFaithful config stageOf variant result)
    (world : σ) :
    Faithful config stageOf variant
      ((reportTask now newRunId number variant result).run world).1 := by
  cases result with
  | ok report => exact h
  | error message =>
      have hstage : stageOf variant = .failed .aborted := h
      exact ⟨rfl, hstage.symm, by rw [hstage]; rfl⟩

/-- Tasks that end on faithful reports are collected into faithful ones. -/
theorem faithful_collect (now : StateM σ Instant) (newRunId : StateM σ RunId) (number : Nat)
    {variants : List Variant} {ends : List TaskEnd}
    (h : List.Forall₂ (EndsFaithful config stageOf) variants ends) (world : σ) :
    List.Forall₂ (Faithful config stageOf) variants
      ((collect now newRunId number variants ends).run world).1 :=
  forall₂_collect (fun hend number world => faithful_reportTask now newRunId number hend world)
    number h world

end

/-! ### Saving reports -/

section
variable {σ : Type} {config : Config} {stageOf : Variant → Stage} {files : σ → FileSystem}
  {site : Site (StateM σ)} {commit : String} {report : VariantReport} {watched : Watched σ}
  {variant other : Variant}

/-- The watched world once a report was saved. -/
def savedReport (site : Site (StateM σ)) (config : Config) (commit : String)
    (report : VariantReport) (watched : Watched σ) : Watched σ :=
  (((ReportStore.ofConfig config).save (watchedSite site).toFiles commit report).run watched).2

/-- What was refused before a report is saved stays on the account. -/
theorem refusals_savedReport (hsite : OnFiles site files) (config : Config) (commit : String)
    (report : VariantReport) (watched : Watched σ) :
    watched.refusals <+: (savedReport site config commit report watched).refusals := by
  obtain ⟨-, refusals, hrefusals, -⟩ :=
    save_spec hsite (ReportStore.ofConfig config) commit report watched
  exact ⟨refusals, hrefusals.symm⟩

/-- Saving a report leaves every artifact where it is. -/
theorem built_savedReport (hsite : OnFiles site files) (hname : '/' ∉ config.binaryName.toList)
    (hreport : '/' ∉ report.variant.os.toList) (hother : '/' ∉ other.os.toList)
    (h : Built config stageOf (files watched.world) other) :
    Built config stageOf (files (savedReport site config commit report watched).world) other := by
  intro hdone
  obtain ⟨content, hread⟩ := h hdone
  obtain ⟨hgrows, -⟩ := save_spec hsite (ReportStore.ofConfig config) commit report watched
  exact ⟨content, hgrows.read (resolve_artifact_ne_report hname hother hreport _) hread⟩

/-- Saving a report stores it, and leaves the reports of other variants as they are. -/
theorem filed_savedReport (hsite : OnFiles site files)
    (hslash : ∀ variant ∈ config.variants, '/' ∉ variant.os.toList) (hwell : WellFormed config)
    (hvariant : variant ∈ config.variants) (hreport : Faithful config stageOf variant report)
    (hother : other ∈ config.variants)
    (hnone : (savedReport site config commit report watched).refusals = [])
    (h : other = variant ∨ Filed config stageOf commit (files watched.world) other) :
    Filed config stageOf commit (files (savedReport site config commit report watched).world)
      other := by
  obtain ⟨hgrows, refusals, hrefusals, hread⟩ :=
    save_spec hsite (ReportStore.ofConfig config) commit report watched
  -- The account is empty in the end, so saving this report added nothing to it.
  have hempty : refusals = [] := (List.append_eq_nil_iff.mp (hrefusals.symm.trans hnone)).2
  rw [hreport.names] at hgrows hread
  by_cases heq : other = variant
  · subst heq
    exact ⟨report, hreport, hread hempty⟩
  · obtain ⟨stored, hfaithful, hstored⟩ := h.resolve_left heq
    -- Identifiers tell variants apart, so the other report lies in a file of its own.
    have hos : other.os ≠ variant.os := mt (hwell.os_inj hother hvariant) heq
    exact ⟨stored, hfaithful, hgrows.read
      (resolve_report_ne config (hslash other hother) (hslash variant hvariant) hos _) hstored⟩

/-- The watched world once several reports were saved. -/
def savedReports (site : Site (StateM σ)) (config : Config) (commit : String)
    (reports : List VariantReport) (watched : Watched σ) : Watched σ :=
  ((record (watchedSite site) config commit reports).run watched).2

/-- Reports are saved in order. -/
theorem savedReports_cons (site : Site (StateM σ)) (config : Config) (commit : String)
    (report : VariantReport) (rest : List VariantReport) (watched : Watched σ) :
    savedReports site config commit (report :: rest) watched =
      savedReports site config commit rest (savedReport site config commit report watched) :=
  rfl

/-- So it does where several reports are saved. -/
theorem refusals_savedReports (hsite : OnFiles site files) (config : Config) (commit : String)
    (reports : List VariantReport) (watched : Watched σ) :
    watched.refusals <+: (savedReports site config commit reports watched).refusals := by
  induction reports generalizing watched with
  | nil => exact List.prefix_refl _
  | cons report rest ih =>
      rw [savedReports_cons]
      exact (refusals_savedReport hsite config commit report watched).trans (ih _)

section
variable {variants : List Variant} {reports : List VariantReport}

/-- Saving any number of reports leaves every artifact where it is. -/
theorem built_savedReports (hsite : OnFiles site files) (hname : '/' ∉ config.binaryName.toList)
    (hslash : ∀ variant ∈ config.variants, '/' ∉ variant.os.toList)
    (hvariants : ∀ variant ∈ variants, variant ∈ config.variants)
    (hreports : List.Forall₂ (Faithful config stageOf) variants reports)
    (hother : other ∈ config.variants) (h : Built config stageOf (files watched.world) other) :
    Built config stageOf (files (savedReports site config commit reports watched).world) other := by
  induction hreports generalizing watched with
  | nil => exact h
  | cons hfirst _ ih =>
      obtain ⟨hvariant, hrest⟩ := List.forall_mem_cons.mp hvariants
      rw [savedReports_cons]
      refine ih hrest (built_savedReport hsite hname ?_ (hslash other hother) h)
      rw [hfirst.names]
      exact hslash _ hvariant

/-- Where nothing is refused, every report is stored in the end, and those of other variants are
stored still. The induction is on the reports: one that is saved later is about another variant, or
is faithful as well. -/
theorem filed_savedReports (hsite : OnFiles site files)
    (hslash : ∀ variant ∈ config.variants, '/' ∉ variant.os.toList) (hwell : WellFormed config)
    (hvariants : ∀ variant ∈ variants, variant ∈ config.variants)
    (hreports : List.Forall₂ (Faithful config stageOf) variants reports)
    (hother : other ∈ config.variants)
    (hnone : (savedReports site config commit reports watched).refusals = [])
    (h : other ∈ variants ∨ Filed config stageOf commit (files watched.world) other) :
    Filed config stageOf commit (files (savedReports site config commit reports watched).world)
      other := by
  induction hreports generalizing watched with
  | nil => exact h.resolve_left List.not_mem_nil
  | @cons variant report rest others hfirst _ ih =>
      obtain ⟨hvariant, hrest⟩ := List.forall_mem_cons.mp hvariants
      rw [savedReports_cons] at hnone ⊢
      -- Nothing was refused in the end, so the first report was not refused either.
      have hfirstNone : (savedReport site config commit report watched).refusals = [] := by
        have hprefix := refusals_savedReports hsite config commit others
          (savedReport site config commit report watched)
        rw [hnone] at hprefix
        exact List.prefix_nil.mp hprefix
      refine ih hrest hnone ?_
      by_cases hlater : other ∈ rest
      · exact .inl hlater
      · rw [List.mem_cons, or_iff_left hlater] at h
        exact .inr (filed_savedReport hsite hslash hwell hvariant hfirst hother hfirstNone h)

end

end

/-! ### What faithful reports lead to -/

section
variable {config : Config} {stageOf : Variant → Stage} {variant : Variant}
  {report : VariantReport} {variants : List Variant} {reports others : List VariantReport}

/-- A faithful report is one of success exactly when the variant is done. -/
theorem Faithful.succeeded_eq (h : Faithful config stageOf variant report) :
    report.succeeded = decide (stageOf variant = .done) := by
  unfold VariantReport.succeeded
  rw [h.stage, h.artifact]
  by_cases hdone : stageOf variant = .done
  · rw [if_pos hdone, hdone]
    rfl
  · rw [if_neg hdone, beq_eq_false_iff_ne.mpr hdone, decide_eq_false hdone]
    rfl

/-- An aggregation shows a faithful report of a variant of which all is kept. -/
theorem faithful_of_shown {commit : String} {fs : FileSystem}
    (h : Shown (snapshotOf fs) config commit variant report)
    (hkept : Kept config stageOf commit fs variant) : Faithful config stageOf variant report := by
  obtain ⟨kept, hfaithful, hread⟩ := hkept.filed
  have hstored : Stored (snapshotOf fs) config commit variant ⟨commit, kept⟩ :=
    ⟨_, hread, ofBytes_bytes ⟨commit, kept⟩, rfl⟩
  have hdone : kept.succeeded = true → stageOf variant = .done := by
    rw [hfaithful.succeeded_eq]
    exact of_decide_eq_true
  cases h with
  | @counted stored hother hplace =>
      -- What is shown is the report that was kept, moved to where its artifact was all along.
      obtain rfl := hother.unique hstored
      show Faithful config stageOf variant (relocated config variant kept)
      unfold relocated
      by_cases hsucceeded : kept.succeeded = true
      · rw [if_pos hsucceeded]
        refine ⟨hfaithful.names, hfaithful.stage, ?_⟩
        rw [if_pos (hdone hsucceeded)]
      · rw [if_neg hsucceeded]
        exact hfaithful
  | rejected hrejected =>
      -- The report counts, since a variant that is done has its artifact in place.
      obtain ⟨hsucceeded, hmissing⟩ := hrejected _ hstored
      obtain ⟨content, hartifact⟩ := hkept.built (hdone hsucceeded)
      exact absurd (isFile_of_read hartifact) hmissing

/-- So an aggregation shows a faithful report of each variant of which everything is kept. -/
theorem faithful_of_forall_shown {commit : String} {fs : FileSystem}
    (h : List.Forall₂ (Shown (snapshotOf fs) config commit) variants reports)
    (hkept : ∀ variant ∈ variants, Kept config stageOf commit fs variant) :
    List.Forall₂ (Faithful config stageOf) variants reports := by
  induction h with
  | nil => exact .nil
  | cons hfirst _ ih =>
      obtain ⟨hvariant, hrest⟩ := List.forall_mem_cons.mp hkept
      exact .cons (faithful_of_shown hfirst hvariant) (ih hrest)

/-- Faithful reports tell the stages of their variants. -/
theorem states_of_faithful (h : List.Forall₂ (Faithful config stageOf) variants reports) :
    reports.map (fun report => (report.variant, report.stage)) =
      variants.map fun variant => (variant, stageOf variant) := by
  induction h with
  | nil => rfl
  | cons hfirst _ ih => rw [List.map_cons, List.map_cons, ih, hfirst.names, hfirst.stage]

/-- They are all of success exactly if all their variants are done. -/
theorem all_succeeded_of_faithful (h : List.Forall₂ (Faithful config stageOf) variants reports) :
    reports.all (·.succeeded) = variants.all fun variant => decide (stageOf variant = .done) := by
  induction h with
  | nil => rfl
  | cons hfirst _ ih => rw [List.all_cons, List.all_cons, ih, hfirst.succeeded_eq]

/-- Their artifacts are those of the variants that are done. -/
theorem artifacts_of_faithful (h : List.Forall₂ (Faithful config stageOf) variants reports) :
    (reports.filter (·.succeeded)).filterMap (·.artifact) =
      (variants.filter fun variant => decide (stageOf variant = .done)).map
        (Artifact.ofVariant config) := by
  induction h with
  | nil => rfl
  | @cons variant report _ _ hfirst _ ih =>
      have hsucceeded := hfirst.succeeded_eq
      have hartifact := hfirst.artifact
      -- A variant that is not done drops out on both sides.
      by_cases hdone : stageOf variant = .done
      · rw [decide_eq_true hdone] at hsucceeded
        rw [if_pos hdone] at hartifact
        rw [List.filter_cons, if_pos hsucceeded, List.filterMap_cons, hartifact, ih,
          List.filter_cons, if_pos (decide_eq_true hdone), List.map_cons]
      · rw [decide_eq_false hdone] at hsucceeded
        rw [List.filter_cons, if_neg (Bool.eq_false_iff.mp hsucceeded), ih, List.filter_cons,
          if_neg (mt of_decide_eq_true hdone)]

/-- Faithful reports of the same variants lead to the same. -/
theorem conclude_eq_of_faithful (trigger : Trigger)
    (h : List.Forall₂ (Faithful config stageOf) variants reports)
    (hothers : List.Forall₂ (Faithful config stageOf) variants others) :
    conclude config trigger reports false = conclude config trigger others false := by
  -- `conclude` only looks at how many reports there are, at success and at artifacts.
  have hempty : reports.isEmpty = others.isEmpty := by
    rw [Bool.eq_iff_iff, List.isEmpty_iff_length_eq_zero, List.isEmpty_iff_length_eq_zero,
      ← h.length_eq, hothers.length_eq]
  unfold conclude
  rw [hempty, all_succeeded_of_faithful h, all_succeeded_of_faithful hothers,
    artifacts_of_faithful h, artifacts_of_faithful hothers]
  rfl

end

end ReleasePipeline.Proofs
