import ReleasePipeline.Proofs.ReportStore

/-!
# `ReleasePipeline.Proofs.Pipeline.Subject`: which variant a loaded report is about

The report of a variant is looked for under the identifier of the variant, and its commit is
compared with the one asked for. The variant that the report itself names is not looked at. So a
report that was saved for one variant counts for another one as soon as its file has the name of
the other one's. `Misnamed` says that this is the case, and `reports_about_own_variants` that
nothing else can go wrong: without a misnamed file every report is about the variant it is shown
for.

Saving never misnames a file (`not_misnamed_of_save`). But a file that was given another name is
taken for what its name says: `vouches_of_renamed`.
-/

set_option autoImplicit false

namespace ReleasePipeline.Proofs

section
variable (snapshot : Snapshot) (config : Config) (commit : String) (variant : Variant)

/-- The file of a variant holds a report that counts and is about another variant. -/
def Misnamed : Prop :=
  ∃ stored, Stored snapshot config commit variant stored ∧
    (stored.report.succeeded = true → AtPlace snapshot config variant) ∧
    stored.report.variant.os ≠ variant.os

end

section
variable {snapshot : Snapshot} {config : Config} {commit : String} {variant : Variant}
  {report : VariantReport}

/-- A report that was moved is about the variant it was about before. -/
theorem variant_relocated (report : VariantReport) :
    (relocated config variant report).variant = report.variant := by
  unfold relocated
  split <;> rfl

/-- The report that is shown of a variant is about that variant, unless the file is misnamed. -/
theorem Shown.about_iff (h : Shown snapshot config commit variant report) :
    report.variant.os = variant.os ↔ ¬ Misnamed snapshot config commit variant := by
  -- A report that counts names what it was stored with, and a made-up one names the variant.
  cases h with
  | @counted stored hstored hplace =>
      rw [variant_relocated]
      constructor
      · rintro habout ⟨other, hother, -, hdiffers⟩
        rw [hstored.unique hother] at habout
        exact hdiffers habout
      · intro hnamed
        by_contra hdiffers
        exact hnamed ⟨stored, hstored, hplace, hdiffers⟩
  | rejected hrejected =>
      refine iff_of_true rfl ?_
      rintro ⟨stored, hstored, hplace, -⟩
      obtain ⟨hsucceeded, hmissing⟩ := hrejected stored hstored
      exact hmissing (hplace hsucceeded)

/-- A report of success that is shown is a stored one, moved to this host. -/
theorem Shown.stored_of_succeeded (h : Shown snapshot config commit variant report)
    (hsucceeded : report.succeeded = true) :
    ∃ stored, Stored snapshot config commit variant stored ∧ stored.report.succeeded = true ∧
      report = { stored.report with artifact := some (.ofVariant config variant) } := by
  cases h with
  | @counted stored hstored =>
      rw [succeeded_relocated] at hsucceeded
      exact ⟨stored, hstored, hsucceeded, if_pos hsucceeded⟩
  | rejected => exact absurd hsucceeded Bool.false_ne_true

/-- All reports that are shown are about their variants, unless a file is misnamed. -/
theorem forall_about_iff {variants : List Variant} {reports : List VariantReport}
    (h : List.Forall₂ (Shown snapshot config commit) variants reports) :
    List.Forall₂ (fun variant report => report.variant.os = variant.os) variants reports ↔
      ∀ variant ∈ variants, ¬ Misnamed snapshot config commit variant := by
  induction h with
  | nil => simp
  | cons hfirst _ ih => rw [List.forall₂_cons, hfirst.about_iff, ih, List.forall_mem_cons]

/-! ### Files that are saved and files that are renamed -/

/-- A report that is stored under the name of a variant vouches for that variant, if it claims
success and the artifact of the variant is there. The variant that it is about may be any other
one. -/
theorem vouches_of_renamed
    (hread : snapshot.read ((ReportStore.ofConfig config).pathFor variant.os) =
      .ok (StoredReport.mk commit report).bytes)
    (hsucceeded : report.succeeded = true) (hplace : AtPlace snapshot config variant) :
    Vouches snapshot config commit variant ∧
      (report.variant.os ≠ variant.os → Misnamed snapshot config commit variant) := by
  have hstored : Stored snapshot config commit variant ⟨commit, report⟩ :=
    ⟨_, hread, ofBytes_bytes _, rfl⟩
  obtain ⟨hstage, hartifact⟩ := Bool.and_eq_true_iff.mp hsucceeded
  exact ⟨⟨_, hstored, eq_of_beq hstage, Option.isSome_iff_ne_none.mp hartifact, hplace⟩,
    fun hdiffers => ⟨_, hstored, fun _ => hplace, hdiffers⟩⟩

/-- The file of a report that was saved without a refusal is not misnamed. -/
theorem not_misnamed_of_save {σ : Type} {site : Site (StateM σ)} {files : σ → FileSystem}
    (hsite : OnFiles site files) (watched : Watched σ)
    (hrefusals : (((ReportStore.ofConfig config).save (watchedSite site).toFiles commit
      report).run watched).2.refusals = watched.refusals) (wanted : String) :
    let after := (((ReportStore.ofConfig config).save (watchedSite site).toFiles commit
      report).run watched).2
    ¬ Misnamed (snapshotOf (files after.world)) config wanted report.variant := by
  intro after
  obtain ⟨-, refusals, hnoted, hread⟩ :=
    save_spec hsite (ReportStore.ofConfig config) commit report watched
  have hnone : refusals = [] := List.append_right_eq_self.mp (hnoted.symm.trans hrefusals)
  rintro ⟨stored, ⟨bytes, hbytes, hdecode, -⟩, -, hdiffers⟩
  -- What is read is what was saved, and that is about the variant.
  cases hbytes.symm.trans (hread hnone)
  cases hdecode.symm.trans (ofBytes_bytes _)
  exact hdiffers rfl

end

/-- **Which variant a report is about.** A report of success that is loaded for a variant is one
that was stored for the commit under the identifier of that variant, with the artifact at its
place. Whether it is about the variant is up to the file: it is, exactly if the file is not
misnamed. So the reports of an aggregation are about the configured variants, each about its own,
exactly if none of the files is misnamed. -/
theorem reports_about_own_variants {σ : Type} (pipeline : Pipeline (StateM σ))
    (site : Site (StateM σ)) (snapshot : Snapshot) (branch : String) (tag : Option String)
    (commit : String) (world : σ) :
    let config := pipeline.config
    let load := fun variant => (((ReportStore.ofConfig config).load
      (watchedSite (frozen snapshot site)) config commit variant).run (unwatched world)).1
    let outcome := ((watchedAggregate pipeline (frozen snapshot site)
      (.ofPush branch tag commit)).run (unwatched world)).1
    (∀ variant, (load variant).succeeded = true →
      ∃ stored, Stored snapshot config commit variant stored ∧ stored.report.succeeded = true ∧
        load variant = { stored.report with artifact := some (.ofVariant config variant) }) ∧
    (∀ variant, (load variant).variant.os = variant.os ↔
      ¬ Misnamed snapshot config commit variant) ∧
    ((∀ text ∈ tag, ∀ c ∈ text.toList, Text.isBlank c = true) →
      (List.Forall₂ (fun variant report => report.variant.os = variant.os) config.variants
        outcome.variants ↔ ∀ variant ∈ config.variants,
          ¬ Misnamed snapshot config commit variant)) := by
  intro config load outcome
  have hshown : ∀ variant, Shown snapshot config commit variant (load variant) := by
    intro variant
    obtain ⟨report, after, hload, hshown, -⟩ := @run_load _ _ _ config commit variant
      (legible_frozen snapshot site) (unwatched world)
    have hreport : load variant = report := congrArg Prod.fst hload
    rw [hreport]
    exact hshown
  refine ⟨fun variant => (hshown variant).stored_of_succeeded,
    fun variant => (hshown variant).about_iff, fun huntagged => ?_⟩
  -- What an aggregation ends on are the reports that it has loaded.
  obtain ⟨reports, loaded, hall, -, hfinish⟩ :=
    aggregate_ends pipeline (legible_frozen snapshot site)
      ((tagBlank_ofPush branch tag commit).mpr huntagged) (unwatched world)
  have hreports : outcome.variants = reports :=
    (congrArg (fun ended => ended.1.variants) hfinish).trans (variants_finish pipeline _ _ _ _)
  rw [hreports]
  exact forall_about_iff hall

end ReleasePipeline.Proofs
