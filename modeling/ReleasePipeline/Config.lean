import ReleasePipeline.Variant

/-!
# `ReleasePipeline.Config`: what a pipeline is told

A configuration names the program, the branch that is released, the directories to work in and
the variants to build. The paths of everything a run produces follow from it. Its credential is
kept apart: it is never shown and never written.
-/

set_option autoImplicit false

namespace ReleasePipeline

/-- A text that must not be shown. -/
structure Secret where
  exposed : String
  deriving DecidableEq

namespace Secret

/-- What is shown in place of a secret. -/
def shown (_ : Secret) : String := "****"

/-- What is shown in place of a secret where its type matters. -/
def described (secret : Secret) : String := "Secret(" ++ secret.shown ++ ")"

end Secret

/-- What a pipeline is told. -/
structure Config where
  binaryName : String
  /-- The variables that ask for static linking. -/
  staticLink : Bindings
  resolverAddress : String
  targetBranch : String
  credential : Option Secret
  releaseRepository : Option String
  releaseApiUrl : String
  sourceDir : Path
  artifactDir : Path
  stepTimeoutSeconds : UInt64
  variants : List Variant
  deriving DecidableEq

namespace Config

/-- The variables that ask for static linking. -/
def staticLinkToggles : List String :=
  ["OPENSSL_STATIC", "SODIUM_STATIC", "SODIUM_BUILD_STATIC"]

/-- The variable that hands the address of a resolver to the tools. -/
def resolverVariable : String := "DNS"

/-- The configuration of a program for which nothing else is said. -/
def ofBinary (binaryName : String) : Config where
  binaryName := binaryName
  staticLink := .ofList (staticLinkToggles.map fun name => (name, "yes"))
  resolverAddress := "114.114.114.114"
  targetBranch := "master"
  credential := none
  releaseRepository := none
  releaseApiUrl := "https://api.github.com"
  sourceDir := ⟨"."⟩
  artifactDir := ⟨"dist"⟩
  stepTimeoutSeconds := 3600
  variants := Variant.defaults

/-- The variables handed to every tool. -/
def passthroughEnv (config : Config) : Bindings :=
  config.staticLink.insert resolverVariable config.resolverAddress

/-- The directory that artifacts are collected in. -/
def artifactPath (config : Config) : Path :=
  if config.artifactDir.isAbsolute then config.artifactDir
  else config.sourceDir.join config.artifactDir.text

/-- Where the build leaves the program. -/
def buildOutput (config : Config) : Path :=
  ((config.sourceDir.join "target").join "release").join config.binaryName

/-- The file name of a variant's artifact. -/
def artifactName (config : Config) (variant : Variant) : String :=
  config.binaryName ++ "-" ++ variant.os

/-- The pattern that the file names of all artifacts match. -/
def artifactGlob (config : Config) : String :=
  config.binaryName ++ "-*"

instance : JsonForm Config where
  toJson config := .obj
    [("binary_name", toJson config.binaryName), ("static_link", toJson config.staticLink),
     ("resolver_address", toJson config.resolverAddress),
     ("target_branch", toJson config.targetBranch),
     ("release_repository", toJson config.releaseRepository),
     ("release_api_url", toJson config.releaseApiUrl), ("source_dir", toJson config.sourceDir),
     ("artifact_dir", toJson config.artifactDir),
     ("step_timeout_seconds", toJson config.stepTimeoutSeconds),
     ("variants", toJson config.variants)]
  ofReading := Fields.record <|
    (fun name link resolver branch => Config.mk name link resolver branch none) <$>
      .required "binary_name" <*> .required "static_link" <*> .required "resolver_address" <*>
      .required "target_branch" <*> .optional "release_repository" <*>
      .required "release_api_url" <*> .required "source_dir" <*> .required "artifact_dir" <*>
      .required "step_timeout_seconds" <*> .required "variants"

end Config
end ReleasePipeline
