import ReleasePipeline.Hosting.Url

/-!
# `ReleasePipeline.Hosting.Http`: requests and responses as data

A transport carries a request to a host and brings back its response. It may fail, and then there
is no response at all.
-/

set_option autoImplicit false

namespace ReleasePipeline.Http

/-- What a request does. -/
inductive Method where
  | get
  | post
  | delete
  deriving DecidableEq, Repr

/-- The name of a method. -/
def Method.name : Method → String
  | .get => "GET"
  | .post => "POST"
  | .delete => "DELETE"

/-- A request. The names of its headers are in lower case. -/
structure Request where
  method : Method
  url : Url
  headers : List (String × String)
  body : ByteArray

/-- A response. -/
structure Response where
  status : Nat
  body : ByteArray

/-- Whether a response says that the request was carried out. -/
def Response.isSuccess (response : Response) : Bool :=
  200 ≤ response.status && response.status < 300

/-- Carries requests to their hosts. -/
structure Transport (m : Type → Type) where
  send : Request → m (Except String Response)

/-- Whether a text can be the value of a header: it has no control characters but tabs. -/
def isHeaderText (text : String) : Bool :=
  text.toList.all fun c => (0x20 ≤ c.toNat && c.toNat != 0x7f) || c == '\t'

end ReleasePipeline.Http
