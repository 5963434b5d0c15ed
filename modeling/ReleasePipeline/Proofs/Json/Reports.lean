import ReleasePipeline.ReportStore
import ReleasePipeline.Proofs.RunId
import ReleasePipeline.Proofs.Time.Rfc3339

/-!
# `ReleasePipeline.Proofs.Json.Reports`: a stored report is read back as it was

Everything a report is made of is a `LawfulForm`, from the names of stages to the time stamps of its
log. `ofBytes_bytes` draws the conclusion: the bytes of a stored report are read as that report. So
whoever loads a report that a run has saved knows everything the run knew.
-/

set_option autoImplicit false

namespace ReleasePipeline.Proofs

/-! ### Enumerations -/

instance : LawfulForm LogLevel where
  inRange _ := trivial
  reads level := by
    cases level <;> rfl

instance : LawfulForm FailureKind where
  inRange _ := trivial
  reads kind := by
    cases kind <;> rfl

instance : LawfulForm StepKind where
  inRange _ := trivial
  reads kind := by
    cases kind <;> rfl

instance : LawfulForm Stage where
  inRange stage := by
    cases stage with
    | failed kind => exact ⟨LawfulForm.inRange kind, trivial⟩
    | _ => trivial
  reads stage := by
    cases stage with
    | failed kind => cases kind <;> rfl
    | _ => rfl

/-! ### Records -/

instance : LawfulForm Path where
  inRange _ := trivial
  reads _ := rfl

instance : LawfulForm Command where
  inRange command := ⟨trivial, LawfulForm.inRange command.args, trivial⟩
  reads _ := record_reads <|
    seq_reads (map_reads (required_reads rfl)) (required_reads rfl)

instance : LawfulForm Variant where
  inRange variant := ⟨trivial, trivial, LawfulForm.inRange variant.compressorInstall, trivial⟩
  reads _ := record_reads <|
    seq_reads (seq_reads (map_reads (required_reads rfl)) (required_reads rfl))
      (required_reads rfl)

instance : LawfulForm Artifact where
  inRange _ := ⟨trivial, trivial, trivial, trivial⟩
  reads _ := record_reads <|
    seq_reads (seq_reads (map_reads (required_reads rfl)) (required_reads rfl))
      (required_reads rfl)

instance : NeverNull Artifact where
  ne_null _ h := nomatch h

instance : LawfulForm LogEntry where
  inRange _ := ⟨trivial, trivial, trivial, trivial⟩
  reads _ := record_reads <|
    seq_reads (seq_reads (map_reads (required_reads rfl)) (required_reads rfl))
      (required_reads rfl)

instance : LawfulForm StepResult where
  inRange result := ⟨trivial, LawfulForm.inRange result.exitCode, trivial, trivial,
    LawfulForm.inRange result.durationMs, trivial⟩
  reads _ := record_reads <|
    seq_reads (seq_reads (seq_reads (seq_reads (map_reads (required_reads rfl))
      (optional_reads rfl)) (required_reads rfl)) (required_reads rfl)) (required_reads rfl)

instance : LawfulForm VariantReport where
  inRange report := ⟨trivial, LawfulForm.inRange report.variant, LawfulForm.inRange report.stage,
    LawfulForm.inRange report.history, LawfulForm.inRange report.steps,
    LawfulForm.inRange report.artifact, LawfulForm.inRange report.logs, trivial⟩
  reads _ := record_reads <|
    seq_reads (seq_reads (seq_reads (seq_reads (seq_reads (seq_reads
      (map_reads (required_reads rfl)) (required_reads rfl)) (required_reads rfl))
      (required_reads rfl)) (required_reads rfl)) (optional_reads rfl)) (required_reads rfl)

instance : LawfulForm StoredReport where
  inRange stored := ⟨trivial, LawfulForm.inRange stored.report, trivial⟩
  reads _ := record_reads <|
    seq_reads (map_reads (required_reads rfl)) (required_reads rfl)

/-- The bytes of a stored report are read as the report. -/
theorem ofBytes_bytes (stored : StoredReport) :
    StoredReport.ofBytes stored.bytes = .ok stored :=
  decode_toJson .indented stored

end ReleasePipeline.Proofs
