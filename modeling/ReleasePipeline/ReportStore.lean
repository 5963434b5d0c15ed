import ReleasePipeline.Json.Parser
import ReleasePipeline.Json.Printer
import ReleasePipeline.Report
import ReleasePipeline.Site

/-!
# `ReleasePipeline.ReportStore`: reports kept beside the artifacts

Variants are built on different hosts, so each run leaves its report as a file in the artifact
directory, under the identifier of its operating system and together with the commit it was built
from. Whoever gathers these files can load every report again.

A report counts only if it is there, can be read, is about the commit asked for and, when it
claims success, if the artifact is there as well. Otherwise the variant is reported as aborted,
and the reason is in its log.
-/

set_option autoImplicit false

namespace ReleasePipeline

/-- A report together with the commit it is about. -/
structure StoredReport where
  commit : String
  report : VariantReport
  deriving DecidableEq

namespace StoredReport

instance : JsonForm StoredReport where
  toJson stored := .obj [("commit", toJson stored.commit), ("report", toJson stored.report)]
  ofReading := Fields.record <| StoredReport.mk <$> .required "commit" <*> .required "report"

/-- The bytes of the file that holds a report. -/
def bytes (stored : StoredReport) : ByteArray :=
  ((toJson stored).render .indented).toUTF8

/-- Reads the bytes of a file. -/
def ofBytes (bytes : ByteArray) : Except Fault StoredReport :=
  Json.decode ofReading bytes.data.toList

end StoredReport

/-- Why a report could not be saved. -/
inductive SaveError where
  | directory (path : Path) (error : OsError)
  | file (path : Path) (error : OsError)
  deriving DecidableEq

/-- The wording of why a report could not be saved. -/
def SaveError.message : SaveError → String
  | .directory path error => "Failed to create " ++ path.text ++ ": " ++ error.message
  | .file path error => "Failed to write " ++ path.text ++ ": " ++ error.message

/-- Why a stored report does not count. -/
inductive LoadError where
  | missing (path : Path) (error : OsError)
  | unreadable (path : Path) (fault : Fault)
  | otherCommit (path : Path) (found wanted : String)
  | artifactMissing (path : Path)
  deriving DecidableEq

/-- What is wrong with a text. The wording is this library's own: it says what kind of fault stands
first, but not at which line and column, or which member is missing or misfits. So the log of an
aborted report says in these words that a stored one is unreadable, and nothing else depends on
them. -/
def Fault.message : Fault → String
  | .notJson => "not a JSON text"
  | .wrongShape => "not of the expected shape"
  | .endsEarly => "ends too early"

/-- The wording of why a stored report does not count. -/
def LoadError.message : LoadError → String
  | .missing path error => "No report for this variant at " ++ path.text ++ ": " ++ error.message
  | .unreadable path fault => "Unreadable report " ++ path.text ++ ": " ++ fault.message
  | .otherCommit path found wanted =>
    "Report " ++ path.text ++ " was built from commit " ++ found ++ ", not " ++ wanted
  | .artifactMissing path => "Artifact " ++ path.text ++ " reported as built is missing"

/-- Where reports are kept. -/
structure ReportStore where
  directory : Path
  deriving DecidableEq

namespace ReportStore

/-- Where the reports of a configuration are kept. -/
def ofConfig (config : Config) : ReportStore :=
  ⟨config.artifactPath.join "reports"⟩

/-- The file that holds the report of a variant. -/
def pathFor (store : ReportStore) (os : String) : Path :=
  store.directory.join (os ++ ".json")

section
variable {m : Type → Type} [Monad m]

/-- Saves a report and returns the file that holds it. -/
def save (store : ReportStore) (files : Files m) (commit : String) (report : VariantReport) :
    m (Except SaveError Path) := do
  match ← files.createDirs store.directory with
  | .error error => pure (.error (.directory store.directory error))
  | .ok () =>
    let path := store.pathFor report.variant.os
    match ← files.write path (StoredReport.mk commit report).bytes with
    | .error error => pure (.error (.file path error))
    | .ok () => pure (.ok path)

/-- What a stored report is worth: a report of success only counts with the artifact at its place
on this host. -/
def vouch (files : Files m) (config : Config) (variant : Variant) (report : VariantReport) :
    m (Except LoadError VariantReport) :=
  if report.succeeded then do
    -- The report may come from another host, where the artifact lay at another place.
    let artifact := Artifact.ofVariant config variant
    if ← files.isFile artifact.path then pure (.ok { report with artifact := some artifact })
    else pure (.error (.artifactMissing artifact.path))
  else pure (.ok report)

/-- Reads the report of a variant, if it counts. -/
def read (store : ReportStore) (files : Files m) (config : Config) (commit : String)
    (variant : Variant) : m (Except LoadError VariantReport) := do
  let path := store.pathFor variant.os
  match ← files.read path with
  | .error error => pure (.error (.missing path error))
  | .ok bytes =>
    match StoredReport.ofBytes bytes with
    | .error fault => pure (.error (.unreadable path fault))
    | .ok stored =>
      -- The commit is compared, and the variant is not: the place of the file is what tells the
      -- variant.
      if stored.commit = commit then vouch files config variant stored.report
      else pure (.error (.otherCommit path stored.commit commit))

/-- The report of a variant; one that does not count is reported as aborted. -/
def load (store : ReportStore) (site : Site m) (config : Config) (commit : String)
    (variant : Variant) : m VariantReport := do
  match ← store.read site.toFiles config commit variant with
  | .ok report => pure report
  | .error error =>
    -- No run stands behind this report, so it has a name and a time of its own.
    let runId ← site.newRunId
    let now ← site.now
    pure (.aborted runId now variant error.message)

/-- The reports of all configured variants. -/
def loadAll (store : ReportStore) (site : Site m) (config : Config) (commit : String) :
    m (List VariantReport) :=
  config.variants.mapM (store.load site config commit)

end
end ReportStore
end ReleasePipeline
