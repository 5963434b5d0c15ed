import ReleasePipeline.Proofs.Config.Validation
import ReleasePipeline.Proofs.FileSystem
import ReleasePipeline.Proofs.Path
import ReleasePipeline.ReportStore

/-!
# `ReleasePipeline.Proofs.Outputs`: where the outputs of a pipeline lie

The artifact of a variant lies in the artifact directory, and its report one directory below. Both
have names that lead one step further (`IsName`), if no identifier contains a separator. So the
places of all outputs are known, however the artifact directory is written, and they are apart. They
are apart from the place where the build leaves the program as well.
-/

set_option autoImplicit false

namespace ReleasePipeline.Proofs

open ReleasePipeline.Path (enter resolve)

section
variable {config : Config} {variant : Variant} {os : String} {from' : Place}

/-- The name of the program in a valid configuration contains no separator. -/
theorem WellFormed.noSlash (h : WellFormed config) : '/' ∉ config.binaryName.toList := by
  intro hslash
  exact absurd (h.nameClean '/' hslash) (by decide)

/-- The name of an artifact, character by character. -/
theorem artifactName_toList (config : Config) (variant : Variant) :
    (config.artifactName variant).toList =
      config.binaryName.toList ++ '-' :: variant.os.toList := by
  unfold Config.artifactName
  rw [String.toList_append, String.toList_append, List.append_assoc]
  rfl

/-- Without slashes in its parts the name of an artifact is one name. The dash in it keeps it from
being a dot or two. -/
theorem isName_artifactName (hname : '/' ∉ config.binaryName.toList)
    (hos : '/' ∉ variant.os.toList) : IsName (config.artifactName variant) := by
  -- The dash sets the name apart from every name that has a meaning of its own.
  have hdash : '-' ∈ (config.artifactName variant).toList := by
    rw [artifactName_toList]
    simp
  refine ⟨?_, ?_, ?_, ?_⟩
  · rw [artifactName_toList]
    simp [hname, hos]
  all_goals
    intro heq
    rw [heq] at hdash
    exact absurd hdash (by decide)

/-- So is the name of a report file, by its ending. -/
theorem isName_reportName (hos : '/' ∉ os.toList) : IsName (os ++ ".json") := by
  have htext : (os ++ ".json").toList = os.toList ++ ['.', 'j', 's', 'o', 'n'] := by
    rw [String.toList_append]
    rfl
  have hletter : 'j' ∈ (os ++ ".json").toList := by
    rw [htext]
    simp
  refine ⟨?_, ?_, ?_, ?_⟩
  · rw [htext]
    simp [hos]
  all_goals
    intro heq
    rw [heq] at hletter
    exact absurd hletter (by decide)

/-- The place of an artifact. -/
theorem resolve_artifact (hname : '/' ∉ config.binaryName.toList)
    (hos : '/' ∉ variant.os.toList) (from' : Place) :
    resolve from' (Artifact.ofVariant config variant).path =
      resolve from' config.artifactPath ++ [config.artifactName variant] :=
  resolve_join (isName_artifactName hname hos) config.artifactPath from'

/-- The folder of the reports has a name that is entered. -/
theorem isName_reports : IsName "reports" :=
  ⟨by decide, by decide, by decide, by decide⟩

/-- The place of a report. -/
theorem resolve_report (config : Config) (hos : '/' ∉ os.toList) (from' : Place) :
    resolve from' ((ReportStore.ofConfig config).pathFor os) =
      resolve from' config.artifactPath ++ ["reports", os ++ ".json"] := by
  unfold ReportStore.pathFor ReportStore.ofConfig
  rw [resolve_join (isName_reportName hos), resolve_join isName_reports, List.append_assoc]
  rfl

/-- An artifact is not where a report is. -/
theorem resolve_artifact_ne_report (hname : '/' ∉ config.binaryName.toList)
    (hvariant : '/' ∉ variant.os.toList) (hos : '/' ∉ os.toList) (from' : Place) :
    resolve from' (Artifact.ofVariant config variant).path ≠
      resolve from' ((ReportStore.ofConfig config).pathFor os) := by
  rw [resolve_artifact hname hvariant, resolve_report config hos]
  intro heq
  have hlength : 1 = 2 := congrArg List.length (List.append_cancel_left heq)
  exact absurd hlength (by decide)

/-- Artifacts of different variants are at different places. -/
theorem resolve_artifact_ne {other : Variant} (hname : '/' ∉ config.binaryName.toList)
    (hvariant : '/' ∉ variant.os.toList) (hother : '/' ∉ other.os.toList)
    (hne : variant.os ≠ other.os) (from' : Place) :
    resolve from' (Artifact.ofVariant config variant).path ≠
      resolve from' (Artifact.ofVariant config other).path := by
  rw [resolve_artifact hname hvariant, resolve_artifact hname hother]
  intro heq
  have hnames : config.artifactName variant = config.artifactName other :=
    List.singleton_inj.mp (List.append_cancel_left heq)
  exact hne ((String.append_right_inj (config.binaryName ++ "-")).mp hnames)

/-- The place where the build leaves the program. -/
theorem resolve_buildOutput (hname : '/' ∉ config.binaryName.toList) (from' : Place) :
    resolve from' config.buildOutput =
      enter (resolve from' config.sourceDir ++ ["target"] ++ ["release"]) config.binaryName := by
  have htarget : IsName "target" := ⟨by decide, by decide, by decide, by decide⟩
  have hrelease : IsName "release" := ⟨by decide, by decide, by decide, by decide⟩
  unfold Config.buildOutput
  rw [resolve_join_eq_enter hname, resolve_join hrelease, resolve_join htarget]

/-- An artifact is not where the build leaves the program. The name of the program may be one of
those with a meaning of their own. -/
theorem resolve_artifact_ne_buildOutput (hname : '/' ∉ config.binaryName.toList)
    (hvariant : '/' ∉ variant.os.toList) (from' : Place) :
    resolve from' (Artifact.ofVariant config variant).path ≠ resolve from' config.buildOutput := by
  have hdash : '-' ∈ (config.artifactName variant).toList := by
    simp [Config.artifactName]
  rw [resolve_artifact hname hvariant, resolve_buildOutput hname]
  intro heq
  have hlast := congrArg List.getLast? heq
  rw [List.getLast?_concat] at hlast
  -- The name of the artifact is none of those that the place of the program can end in.
  unfold enter at hlast
  split at hlast
  · rw [List.getLast?_concat, Option.some_inj] at hlast
    rw [hlast] at hdash
    exact absurd hdash (by decide)
  · split at hlast
    · rw [List.dropLast_concat, List.getLast?_concat, Option.some_inj] at hlast
      rw [hlast] at hdash
      exact absurd hdash (by decide)
    · rw [List.getLast?_concat, Option.some_inj] at hlast
      have hlength := congrArg String.length hlast
      have hone : "-".length = 1 := rfl
      simp only [Config.artifactName, String.length_append] at hlength
      omega

/-- Reports under different identifiers are at different places. -/
theorem resolve_report_ne {other : String} (config : Config) (hos : '/' ∉ os.toList)
    (hother : '/' ∉ other.toList) (hne : os ≠ other) (from' : Place) :
    resolve from' ((ReportStore.ofConfig config).pathFor os) ≠
      resolve from' ((ReportStore.ofConfig config).pathFor other) := by
  rw [resolve_report config hos, resolve_report config hother]
  intro heq
  have hnames := List.append_cancel_left heq
  simp only [List.cons.injEq, and_true, true_and] at hnames
  exact hne ((String.append_left_inj ".json").mp hnames)

end

end ReleasePipeline.Proofs
