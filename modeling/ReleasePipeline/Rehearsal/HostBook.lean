import ReleasePipeline.Hosting.Host
import ReleasePipeline.Text.Decimal

/-!
# `ReleasePipeline.Rehearsal.HostBook`: a release host that is a plain value

The book of a host lists its releases and every call it was asked. A new release gets the number
after the greatest one the host has ever had. Faults can be put into a book, and make calls fail
or answer with something else than was asked for. A call is noted before any fault.
-/

set_option autoImplicit false

namespace ReleasePipeline.Rehearsal

/-- A call to a host. -/
inductive HostCall where
  | find (tag : String)
  | create (release : NewRelease)
  | upload (release : UInt64) (name : String) (contents : ByteArray)
  | delete (release : UInt64)

/-- What is wrong with a host. -/
structure HostFaults where
  find : Option Nat
  create : Option Nat
  delete : List (UInt64 × Nat)
  /-- How many uploads succeed, if not all of them do. -/
  uploadsLeft : Option Nat
  /-- The tag that releases get instead of the one asked for. -/
  tag : Option String
  noName : Bool
  /-- What is put in front of the names of files, though not in their addresses. -/
  before : String

/-- A host with which nothing is wrong. -/
def HostFaults.none : HostFaults :=
  ⟨.none, .none, [], .none, .none, false, ""⟩

/-- The error of a fault: a refusal with its status, or an answer that makes no sense. -/
def faultError (status : Nat) : HostError :=
  if status = 0 then .unparsable "fault" else .refused status "fault"

/-- The book of a host. -/
structure HostBook where
  releases : List HostedRelease
  /-- The greatest number a release has had. -/
  greatest : UInt64
  /-- The calls since the last time they were looked at, oldest first. -/
  calls : List HostCall
  /-- How many of these calls were uploads that succeeded. -/
  uploads : Nat
  faults : HostFaults

namespace HostBook

/-- The book of a host that has some releases. -/
def ofReleases (releases : List HostedRelease) : HostBook where
  releases := releases
  greatest := releases.foldl (fun greatest release => max greatest release.id) 0
  calls := []
  uploads := 0
  faults := .none

/-- The book for which calls are counted anew. -/
def turnPage (book : HostBook) : HostBook :=
  { book with calls := [], uploads := 0 }

/-- Notes a call. -/
def note (book : HostBook) (call : HostCall) : HostBook :=
  { book with calls := book.calls ++ [call] }

/-- Refusal of a call about a release that is not there. -/
def notFound : HostError := .refused 404 "Not Found"

/-- The digits of a number. -/
def number (n : UInt64) : String :=
  String.ofList (Text.digits n.toNat)

/-- Finds the first release that carries a tag. -/
def find (tag : String) (book : HostBook) :
    Except HostError (Option HostedRelease) × HostBook :=
  let book := book.note (.find tag)
  match book.faults.find with
  | some status => (.error (faultError status), book)
  | none => (.ok (book.releases.find? (·.tagName == tag)), book)

/-- The release that is made when one is asked for. -/
def made (book : HostBook) (release : NewRelease) : HostedRelease :=
  let id := book.greatest + 1
  { id := id
    tagName := book.faults.tag.getD release.tagName
    name := if book.faults.noName then none else some release.name
    draft := release.draft
    htmlUrl := "https://example.test/releases/" ++ number id
    uploadUrl := "https://uploads.example.test/releases/" ++ number id
      ++ "/assets\x7b?name,label\x7d"
    assets := [] }

/-- Makes a release. -/
def create (release : NewRelease) (book : HostBook) : Except HostError HostedRelease × HostBook :=
  let book := book.note (.create release)
  match book.faults.create with
  | some status => (.error (faultError status), book)
  | none =>
    let made := book.made release
    -- A number is not used again, even after its release is deleted.
    (.ok made, { book with releases := book.releases ++ [made], greatest := made.id })

/-- The file that an upload adds to a release. -/
def added (book : HostBook) (release : HostedRelease) (name : String) (contents : ByteArray) :
    HostedAsset :=
  { id := release.id * 100 + UInt64.ofNat (book.uploads + 1)
    name := book.faults.before ++ name
    size := UInt64.ofNat contents.size
    downloadUrl := release.htmlUrl ++ "/" ++ name }

/-- Adds a file to a release. -/
def upload (release : HostedRelease) (name : String) (contents : ByteArray) (book : HostBook) :
    Except HostError HostedAsset × HostBook :=
  let book := book.note (.upload release.id name contents)
  if book.faults.uploadsLeft.any (· ≤ book.uploads) then
    (.error (.refused 502 "Bad Gateway"), book)
  else if book.releases.any (·.id == release.id) then
    let asset := book.added release name contents
    let releases := book.releases.map fun found =>
      if found.id == release.id then { found with assets := found.assets ++ [asset] } else found
    (.ok asset, { book with releases := releases, uploads := book.uploads + 1 })
  else (.error notFound, book)

/-- Deletes a release. -/
def delete (id : UInt64) (book : HostBook) : Except HostError Unit × HostBook :=
  let book := book.note (.delete id)
  match book.faults.delete.lookup id with
  | some status => (.error (faultError status), book)
  | none =>
    if book.releases.any (·.id == id) then
      (.ok (), { book with releases := book.releases.filter (·.id != id) })
    else (.error notFound, book)

end HostBook
end ReleasePipeline.Rehearsal
