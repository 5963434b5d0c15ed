import ReleasePipeline.Proofs.Hosting.Client

/-!
# `ReleasePipeline.Proofs.Hosting.Credential`: where a client shows its credential

A client puts its credential into one header of each request. `requestBearing` is a request with
another credential in this header, and `transportBearing` sends each request with another
credential.

Take a client that has another credential, in every monad and whatever its transport does. Its
requests are the same apart from that header (`request_bearing`), so it does what the first client
would do with a transport that exchanges the credential (`host_bearing`). The one thing that is
read off a credential is whether it can be the value of a header.
-/

set_option autoImplicit false

namespace ReleasePipeline.Proofs

open ReleaseClient (exchange)

/-! ### Another credential -/

/-- The name of the header that holds the credential. -/
def credentialHeader : String := "authorization"

/-- A request with another credential. -/
def requestBearing (secret : Secret) (request : Http.Request) : Http.Request :=
  { request with
    headers := request.headers.map fun (name, value) =>
      (name, if name = credentialHeader then "Bearer " ++ secret.exposed else value) }

/-- A request without its credential. -/
def withoutCredential (request : Http.Request) : Http.Request :=
  { request with headers := request.headers.filter fun (name, _) => name ≠ credentialHeader }

/-- A transport that exchanges the credential of each request. -/
def transportBearing {m : Type → Type} (secret : Secret) (transport : Http.Transport m) :
    Http.Transport m where
  send request := transport.send (requestBearing secret request)

/-- A client with another credential. -/
def clientBearing (secret : Secret) (client : ReleaseClient) : ReleaseClient :=
  { client with token := secret }

/-- A request with another credential is the same apart from it. -/
theorem withoutCredential_bearing (secret : Secret) (request : Http.Request) :
    withoutCredential (requestBearing secret request) = withoutCredential request := by
  unfold withoutCredential requestBearing
  congr 1
  induction request.headers with
  | nil => rfl
  | cons header rest ih =>
      rw [List.map_cons, List.filter_cons, List.filter_cons, ih]
      by_cases hname : header.1 = credentialHeader <;> simp [hname]

/-! ### The requests of a client -/

section
variable {client : ReleaseClient} {secret : Secret}
  (hheader : Http.isHeaderText secret.exposed = true)
  (hclient : Http.isHeaderText client.token.exposed = true)
include hheader hclient

/-- The requests of a client with another credential are its requests with another credential. -/
theorem request_bearing (method : Http.Method) (address : String) (query : List (String × String))
    (contentType : Option String) (body : ByteArray) :
    (clientBearing secret client).request method address query contentType body =
      (client.request method address query contentType body).map (requestBearing secret) := by
  unfold ReleaseClient.request clientBearing
  cases Url.ofText? address with
  | none => rfl
  | some url =>
      simp only [hheader, hclient]
      cases url.host?.isNone with
      | true => rfl
      | false =>
          cases (if query.isEmpty then url else url.withQuery query).isSendable with
          | false => simp [Except.map]
          | true =>
              -- The credential is in the first header, and in no other one.
              cases contentType <;> simp [Except.map, requestBearing, credentialHeader]

/-- The request for an upload is the same but for the credential. -/
theorem uploadRequest_bearing (release : HostedRelease) (name : String) (contents : ByteArray) :
    (clientBearing secret client).uploadRequest release name contents =
      (client.uploadRequest release name contents).map (requestBearing secret) := by
  unfold ReleaseClient.uploadRequest
  by_cases hname : name.isEmpty = true
  · rw [if_pos hname, if_pos hname]
    rfl
  · rw [if_neg hname, if_neg hname]
    exact request_bearing hheader hclient _ _ _ _ _

end

/-! ### The client as a host -/

section
variable {m : Type → Type} [Monad m] (transport : Http.Transport m)

/-- A request with another credential is sent by a transport that exchanges the credential. -/
theorem exchange_bearing {α : Type} {secret : Secret}
    {request other : Except HostError Http.Request}
    (h : other = request.map (requestBearing secret))
    (answer : Http.Response → Except HostError α) :
    exchange transport other answer =
      exchange (transportBearing secret transport) request answer := by
  rw [h]
  cases request <;> rfl

variable {client : ReleaseClient} {secret : Secret}
  (hheader : Http.isHeaderText secret.exposed = true)
  (hclient : Http.isHeaderText client.token.exposed = true)
include hheader hclient

/-- A page is listed by a transport that exchanges the credential. -/
theorem list_bearing (page : Nat) :
    (clientBearing secret client).list transport page =
      client.list (transportBearing secret transport) page :=
  exchange_bearing transport (request_bearing hheader hclient _ _ _ _ _) _

/-- The search for a tag goes through the same pages. -/
theorem findFrom_bearing (tag : String) (page more : Nat) :
    (clientBearing secret client).findFrom transport tag page more =
      client.findFrom (transportBearing secret transport) tag page more := by
  induction more generalizing page with
  | zero => rw [findFrom_eq, findFrom_eq, list_bearing transport hheader hclient]
  | succ more ih =>
      rw [findFrom_eq, findFrom_eq, list_bearing transport hheader hclient]
      simp only [ih]

/-- A client with another credential is the host that the client is behind a transport that
exchanges the credential. -/
theorem host_bearing :
    (clientBearing secret client).host transport =
      client.host (transportBearing secret transport) := by
  show ReleaseHost.mk _ _ _ _ = ReleaseHost.mk _ _ _ _
  rw [ReleaseHost.mk.injEq]
  refine ⟨?_, ?_, ?_, ?_⟩
  · funext tag
    exact findFrom_bearing transport hheader hclient tag _ _
  · funext release
    exact exchange_bearing transport (request_bearing hheader hclient _ _ _ _ _) _
  · funext release name contents
    exact exchange_bearing transport (uploadRequest_bearing hheader hclient _ _ _) _
  · funext id
    exact exchange_bearing transport (request_bearing hheader hclient _ _ _ _ _) _

end

end ReleasePipeline.Proofs
