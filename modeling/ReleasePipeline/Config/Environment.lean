import ReleasePipeline.Config
import ReleasePipeline.Text.Blank

/-!
# `ReleasePipeline.Config.Environment`: a configuration from variables

Every setting has a variable of its own. A blank value counts as none at all, and then the
setting keeps its default; any other value is taken as it is. Only the name of the program has no
default, and only the time limit of a step has to be a number.
-/

set_option autoImplicit false

namespace ReleasePipeline

/-- Why no configuration comes of a set of variables. -/
inductive EnvironmentError where
  | noBinaryName
  | badTimeout (value : String) (fault : Text.CountFault)
  deriving DecidableEq, Repr

/-- The wording of why no configuration comes of a set of variables. -/
def EnvironmentError.message : EnvironmentError → String
  | .noBinaryName => "BINARY_NAME environment variable not set"
  | .badTimeout value fault =>
    "STEP_TIMEOUT must be a number of seconds, got '" ++ value ++ "': " ++ fault.message

namespace Config

/-- The value of a variable, unless it is blank. -/
def setting (lookup : String → Option String) (name : String) : Option String :=
  (lookup name).filter fun value => !Text.isBlankText value

/-- Takes the value of each toggle that is set. -/
def setToggles (lookup : String → Option String) (toggles : List String) (link : Bindings) :
    Bindings :=
  toggles.foldl (fun link name =>
    match setting lookup name with
    | some value => link.insert name value
    | none => link) link

/-- The time limit of a step. Blanks around the number do not count. -/
def readTimeout (value : String) : Except EnvironmentError UInt64 :=
  match Text.readCount (Text.trim value.toList) with
  | .ok seconds => .ok (UInt64.ofNat seconds)
  | .error fault => .error (.badTimeout value fault)

/-- The configuration that variables describe. -/
def ofEnvironment (lookup : String → Option String) : Except EnvironmentError Config :=
  match setting lookup "BINARY_NAME" with
  | none => .error .noBinaryName
  | some binaryName =>
    let default' := ofBinary binaryName
    let config : Config :=
      { default' with
        staticLink := setToggles lookup staticLinkToggles default'.staticLink
        resolverAddress := (setting lookup resolverVariable).getD default'.resolverAddress
        targetBranch := (setting lookup "RELEASE_BRANCH").getD default'.targetBranch
        credential := (setting lookup "GITHUB_TOKEN").map Secret.mk
        releaseRepository := setting lookup "RELEASE_REPOSITORY"
        releaseApiUrl := (setting lookup "RELEASE_API_URL").getD default'.releaseApiUrl
        sourceDir := ((setting lookup "SOURCE_DIR").map Path.mk).getD default'.sourceDir
        artifactDir := ((setting lookup "ARTIFACT_DIR").map Path.mk).getD default'.artifactDir }
    match setting lookup "STEP_TIMEOUT" with
    | none => .ok config
    | some value => do
      let seconds ← readTimeout value
      .ok { config with stepTimeoutSeconds := seconds }

end Config
end ReleasePipeline
