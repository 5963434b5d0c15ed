import ReleasePipeline.Text.Decimal

/-!
# `ReleasePipeline.Hosting.Error`: what can go wrong with a release host
-/

set_option autoImplicit false

namespace ReleasePipeline

/-- Why a release host did not do what it was asked for. -/
inductive HostError where
  /-- The request could not be made or brought no answer. -/
  | requestFailed (reason : String)
  /-- The host refused. -/
  | refused (status : Nat) (message : String)
  /-- The answer makes no sense. -/
  | unparsable (reason : String)
  /-- The request itself makes no sense, and was not sent. -/
  | invalidRequest (reason : String)
  deriving DecidableEq, Repr

namespace HostError

/-- The wording of an error. -/
def message : HostError → String
  | .requestFailed reason => "HTTP request failed: " ++ reason
  | .refused status message =>
    "API error (status " ++ String.ofList (Text.digits status) ++ "): " ++ message
  | .unparsable reason => "Failed to parse response: " ++ reason
  | .invalidRequest reason => "Invalid request: " ++ reason

/-- Whether the host does not know what was asked about. -/
def isNotFound : HostError → Bool
  | .refused status _ => status == 404
  | _ => false

/-- Whether the host does not accept the credential. -/
def isUnauthorized : HostError → Bool
  | .refused status _ => status == 401 || status == 403
  | _ => false

/-- Whether the fault lies with the host. -/
def isServerError : HostError → Bool
  | .refused status _ => 500 ≤ status
  | _ => false

end HostError
end ReleasePipeline
