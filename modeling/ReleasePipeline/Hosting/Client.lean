import ReleasePipeline.Config
import ReleasePipeline.Hosting.Host
import ReleasePipeline.Hosting.Http
import ReleasePipeline.Json.Document
import ReleasePipeline.Json.Printer
import ReleasePipeline.Text.Lossy

/-!
# `ReleasePipeline.Hosting.Client`: a release host behind a web interface

The client turns what is asked of a host into requests, and their responses into answers. A
response that reports no success is a refusal. Its message is the one named in a JSON body, or
the body as it is.

Releases that are still drafts cannot be asked for by their tag, so `find` goes through the whole
list of releases. The list comes in pages, and the first page that is not full is the last one.
-/

set_option autoImplicit false

namespace ReleasePipeline

/-- Who the client says it is. -/
def clientName : String := "shipyard/0.1.0"

/-- The form of answers the client asks for. -/
def mediaType : String := "application/vnd.github+json"

/-- How many releases a page of the list has. -/
def pageSize : Nat := 100

/-- The number of the last page that can be asked for. -/
def lastPage : Nat := 4294967295

/-- The text without the slashes at its end. -/
def dropTrailingSlashes (text : List Char) : List Char :=
  (text.reverse.dropWhile (· == '/')).reverse

/-- A client for the releases of one repository. -/
structure ReleaseClient where
  baseUrl : String
  repository : String
  token : Secret
  deriving DecidableEq

namespace ReleaseClient

/-- A client for a repository. Slashes at the end of the address and around the repository do not
count. -/
def connect (baseUrl repository : String) (token : Secret) : ReleaseClient where
  baseUrl := String.ofList (dropTrailingSlashes baseUrl.toList)
  repository :=
    String.ofList (dropTrailingSlashes (repository.toList.dropWhile (· == '/')))
  token := token

/-- The address of all releases of the repository. -/
def releasesUrl (client : ReleaseClient) : String :=
  client.baseUrl ++ "/repos/" ++ client.repository ++ "/releases"

/-- Why a request could not even be put together. -/
def unsendable : HostError := .requestFailed "builder error"

/-- Why a request to an address that cannot be sent could not be put together. -/
def unsendableTo (url : Url) : HostError :=
  .requestFailed ("builder error for url (" ++ url.text ++ ")")

/-- Puts a request together. -/
def request (client : ReleaseClient) (method : Http.Method) (address : String)
    (query : List (String × String)) (contentType : Option String) (body : ByteArray) :
    Except HostError Http.Request :=
  match Url.ofText? address with
  | none => .error unsendable
  | some url =>
    let asked := if query.isEmpty then url else url.withQuery query
    -- The address itself is objected to first, then the credential, then the address as it is asked
    -- for.
    if url.host?.isNone then .error (unsendableTo url)
    else if !Http.isHeaderText client.token.exposed then .error unsendable
    else if !asked.isSendable then .error (unsendableTo asked)
    else
      .ok
        { method := method
          url := asked
          headers :=
            [("authorization", "Bearer " ++ client.token.exposed), ("accept", mediaType),
             ("user-agent", clientName)] ++
            (contentType.map fun type => ("content-type", type)).toList
          body := body }

/-- The request for a page of the list of releases. -/
def listRequest (client : ReleaseClient) (page : Nat) : Except HostError Http.Request :=
  client.request .get client.releasesUrl
    [("per_page", String.ofList (Text.digits pageSize)),
     ("page", String.ofList (Text.digits page))] none ByteArray.empty

/-- The request to make a release. -/
def createRequest (client : ReleaseClient) (release : NewRelease) :
    Except HostError Http.Request :=
  client.request .post client.releasesUrl [] (some "application/json")
    ((toJson release).render .compact).toUTF8

/-- The request to delete a release. -/
def deleteRequest (client : ReleaseClient) (id : UInt64) : Except HostError Http.Request :=
  client.request .delete (client.releasesUrl ++ "/" ++ String.ofList (Text.digits id.toNat)) []
    none ByteArray.empty

/-- The request to add a file to a release. -/
def uploadRequest (client : ReleaseClient) (release : HostedRelease) (name : String)
    (contents : ByteArray) : Except HostError Http.Request :=
  if name.isEmpty then .error (.invalidRequest "asset name cannot be empty")
  else
    client.request .post release.uploadEndpoint [("name", name)]
      (some "application/octet-stream") contents

/-- The message of a refusal. -/
def refusalMessage (body : ByteArray) : String :=
  -- A host tells in a member of its own what is wrong. Failing that, all it said is shown.
  let named := match Json.readDocument body.data.toList with
    | .ok document => (document.member? "message").bind Reading.text?
    | .error _ => none
  named.getD (Text.lossy body)

/-- What a response says about the success of its request. -/
def checkSuccess (response : Http.Response) : Except HostError Unit :=
  if response.isSuccess then .ok ()
  else .error (.refused response.status (refusalMessage response.body))

/-- The value that a response brings. -/
def readBody {α : Type} [JsonForm α] (response : Http.Response) : Except HostError α := do
  checkSuccess response
  match Json.decode ofReading response.body.data.toList with
  | .ok value => .ok value
  | .error _ =>
    .error (.unparsable "Failed to parse JSON response: error decoding response body")

section
variable {m : Type → Type} [Monad m]

/-- Sends a request, if there is one, and makes something of its response. -/
def exchange {α : Type} (transport : Http.Transport m) (request : Except HostError Http.Request)
    (answer : Http.Response → Except HostError α) : m (Except HostError α) :=
  match request with
  | .error error => pure (.error error)
  | .ok request => do
    match ← transport.send request with
    | .error reason => pure (.error (.requestFailed reason))
    | .ok response => pure (answer response)

/-- A page of the list of releases. -/
def list (client : ReleaseClient) (transport : Http.Transport m) (page : Nat) :
    m (Except HostError (List HostedRelease)) :=
  exchange transport (client.listRequest page) readBody

/-- Looks for a tag on a page and, as long as pages are full, on at most `more` pages after it. The
numbers of pages are words of 32 bits, so there is none to ask for behind `lastPage`: counting on
from it overflows, and what comes of a search that gets there is not laid down anywhere. The error
that it ends with here, and its wording, are this library's own. -/
def findFrom (client : ReleaseClient) (transport : Http.Transport m) (tag : String) :
    Nat → Nat → m (Except HostError (Option HostedRelease))
  | page, more => do
    match ← client.list transport page with
    | .error error => pure (.error error)
    | .ok releases =>
      match releases.find? (·.tagName == tag) with
      | some release => pure (.ok (some release))
      | none =>
        -- A page that is not full has none after it.
        if releases.length < pageSize then pure (.ok none)
        else
          match more with
          | 0 => pure (.error (.requestFailed "no further page can be asked for"))
          | more + 1 => findFrom client transport tag (page + 1) more

/-- The repository as a release host. -/
def host (client : ReleaseClient) (transport : Http.Transport m) : ReleaseHost m where
  find tag := client.findFrom transport tag 1 (lastPage - 1)
  create release := exchange transport (client.createRequest release) readBody
  upload release name contents :=
    exchange transport (client.uploadRequest release name contents) readBody
  delete id := exchange transport (client.deleteRequest id) checkSuccess

end
end ReleaseClient
end ReleasePipeline
