import ReleasePipeline.Config
import ReleasePipeline.Text.Blank

/-!
# `ReleasePipeline.Config.Validation`: configurations that can be worked with

`validate` reports the first thing that is wrong with a configuration. What it accepts has
artifacts with names of their own, since these are made of the name of the program and the
identifiers of the variants. `validateForPublish` adds what publishing needs: a credential, and a
repository of an owner.
-/

set_option autoImplicit false

namespace ReleasePipeline

/-- What is wrong with a configuration. -/
inductive ConfigError where
  | emptyBinaryName
  | badBinaryName (name : String)
  | emptyTargetBranch
  | badApiUrl
  | zeroTimeout
  | noVariants
  | emptyOs (variant : String)
  | duplicateOs (os : String)
  | noCredential
  | noRepository
  | badRepository (repository : String)
  deriving DecidableEq, Repr

/-- The wording of what is wrong with a configuration. -/
def ConfigError.message : ConfigError → String
  | .emptyBinaryName => "binary_name cannot be empty"
  | .badBinaryName name =>
    "binary_name '" ++ name ++ "' must not contain path separators or whitespace"
  | .emptyTargetBranch => "target_branch cannot be empty"
  | .badApiUrl => "release_api_url must start with http:// or https://"
  | .zeroTimeout => "step_timeout must be greater than 0"
  | .noVariants => "at least one variant is required"
  | .emptyOs variant => "variant '" ++ variant ++ "' has an empty OS identifier"
  | .duplicateOs os => "duplicate variant OS identifier '" ++ os ++ "'"
  | .noCredential => "GITHUB_TOKEN is not set; cannot publish"
  | .noRepository => "RELEASE_REPOSITORY is not set; cannot publish"
  | .badRepository repository =>
    "RELEASE_REPOSITORY must be 'owner/name', got '" ++ repository ++ "'"

namespace Config

/-- Whether a character may not stand in the name of a program. -/
def isForbiddenInName (c : Char) : Bool :=
  c == '/' || c == '\\' || Text.isBlank c

/-- Whether a text begins with another one. -/
def startsWith (start text : String) : Bool :=
  start.toList.isPrefixOf text.toList

/-- Whether an address is one of the web. -/
def isWebAddress (address : String) : Bool :=
  startsWith "http://" address || startsWith "https://" address

/-- Checks that identifiers are neither empty nor among those seen before. -/
def validateVariants (seen : List String) : List Variant → Except ConfigError Unit
  | [] => .ok ()
  | variant :: rest =>
    if variant.os = "" then .error (.emptyOs variant.name)
    else if variant.os ∈ seen then .error (.duplicateOs variant.os)
    else validateVariants (variant.os :: seen) rest

/-- Checks that a configuration can be worked with. -/
def validate (config : Config) : Except ConfigError Unit :=
  if config.binaryName = "" then .error .emptyBinaryName
  else if config.binaryName.toList.any isForbiddenInName then
    .error (.badBinaryName config.binaryName)
  else if config.targetBranch = "" then .error .emptyTargetBranch
  else if isWebAddress config.releaseApiUrl = false then .error .badApiUrl
  else if config.stepTimeoutSeconds = 0 then .error .zeroTimeout
  else if config.variants = [] then .error .noVariants
  else validateVariants [] config.variants

/-- Whether a text is an owner and a name with a slash between them. -/
def isRepository (text : String) : Bool :=
  let owner := text.toList.takeWhile (· ≠ '/')
  match text.toList.dropWhile (· ≠ '/') with
  | [] => false
  | _ :: name => !owner.isEmpty && !name.isEmpty && !name.contains '/'

/-- Checks that a configuration has what publishing needs, which it returns: the credential and
the repository. -/
def validateForPublish (config : Config) : Except ConfigError (Secret × String) :=
  match config.credential, config.releaseRepository with
  | none, _ => .error .noCredential
  | some _, none => .error .noRepository
  | some credential, some repository =>
    if isRepository repository then .ok (credential, repository)
    else .error (.badRepository repository)

end Config
end ReleasePipeline
