import ReleasePipeline.Hosting.DomainName
import ReleasePipeline.Hosting.IpAddress
import ReleasePipeline.Hosting.Scheme
import ReleasePipeline.Text.Percent

/-!
# `ReleasePipeline.Hosting.Authority`: hosts and ports of addresses

In addresses of networks there is one way to write a host: a number, or a name in lower case and
ASCII. In those of unknown schemes a host is any text. The usual port of a scheme is left out.

A name and a password in front of the host are not part of what is asked for, so they are dropped.
They stay only where the name is no text.
-/

set_option autoImplicit false

namespace ReleasePipeline

/-- What stands between two slashes and the path of an address. -/
structure Authority where
  /-- The name and the password in front of the host, if they stay. -/
  credentials : Option String
  /-- The host, which may be empty. -/
  host : String
  port : Option Nat
  deriving DecidableEq, Repr

namespace Authority

/-- Splits a text at the first of the characters that satisfy a test, which is dropped. -/
def splitAtFirst (test : Char → Bool) (text : List Char) : List Char × Option (List Char) :=
  (text.takeWhile fun c => !test c, (text.dropWhile fun c => !test c).tail?)

/-! ### Credentials -/

/-- The characters that cannot stand in a name or a password. -/
def credentialsSpecial : List Char :=
  [' ', '"', '<', '>', '\x60', '#', '?', '\x7b', '\x7d', '/', ':', ';', '=', '@', '[', '\\', ']',
    '^', '|']

/-- What is in front of the last at sign, if there is one, and what is behind it. -/
def cutCredentials (text : List Char) : Option (List Char) × List Char :=
  let behind := (text.reverse.takeWhile (· ≠ '@')).reverse
  if behind.length = text.length then (none, text)
  else (some (text.take (text.length - behind.length - 1)), behind)

/-- Whether a text that may hold bytes behind percent signs is a text at all. -/
def isText (text : List Char) : Bool :=
  (String.fromUTF8? (ByteArray.mk (Text.percentDecode text).toArray)).isSome

/-- What stays of a name and a password. They are known from the texts they stand for, and an empty
password is none. -/
def keptCredentials? (text : List Char) : Option String :=
  let (name, password) := splitAtFirst (· == ':') text
  let password := password.getD []
  -- Credentials that can be read as text go into a header, and do not stay in the address.
  let known := isText name && (!name.isEmpty || (!password.isEmpty && isText password))
  if known ∨ (name.isEmpty ∧ password.isEmpty) then none
  else
    let encode := Text.percentEncode credentialsSpecial
    some (String.ofList (encode name ++ if password.isEmpty then [] else ':' :: encode password))

/-! ### Hosts and ports -/

/-- The host, and what follows it. A colon ends it, but not inside brackets. -/
def cutHost (inside : Bool) : List Char → List Char × List Char
  | [] => ([], [])
  | c :: rest =>
    if c = ':' ∧ !inside then ([], c :: rest)
    else
      let inside := c = '[' || (inside && c ≠ ']')
      let (host, after) := cutHost inside rest
      (c :: host, after)

/-- A host in brackets, given from behind the opening one. -/
def groupsHost? (text : List Char) : Option (List Char) :=
  if text.getLast? = some ']' then do
    let groups ← IpAddress.eightGroups? text.dropLast
    some ('[' :: IpAddress.eightGroupsText groups ++ [']'])
  else none

/-- A host in the one way there is to write it: a number or a name. -/
def networkHost? (text : List Char) : Option (List Char) :=
  match text with
  | '[' :: rest => groupsHost? rest
  | _ => do
    -- A host may be hidden behind percent signs, and a number in digits of another script.
    let name ← DomainName.toAscii? (Text.lossyChars (Text.percentDecode text))
    if name.isEmpty then none
    else if IpAddress.endsInNumber name then IpAddress.fourBytesText <$> IpAddress.fourBytes? name
    else some name

/-- The characters that cannot stand in a host of any kind. -/
def hostForbidden : List Char :=
  ['\x00', ' ', '#', '/', ':', '<', '>', '?', '@', '[', '\\', ']', '^', '|']

/-- A host that is any text. -/
def plainHost? (text : List Char) : Option (List Char) :=
  match text with
  | '[' :: rest => groupsHost? rest
  | _ => if text.any hostForbidden.contains then none else some (Text.percentEncode [] text)

/-- The port behind a colon, unless it is the usual one. -/
def readPort? (usual : Option Nat) (text : List Char) : Option (Option Nat) :=
  let text := text.drop 1
  if text.isEmpty then some none
  else if text.all Char.isDigit then
    let port := Text.valueOfDigits text
    if 65535 < port then none else some (if some port = usual then none else some port)
  else none

/-- Reads a host and what belongs to it. Only where any text is a host it may be empty, and then
nothing else is there. -/
def read? (kind : SchemeKind) (text : List Char) : Option Authority := do
  let (credentials, location) := cutCredentials text
  let (host, port) := cutHost false location
  if host.isEmpty ∧ (kind ≠ .other ∨ credentials.isSome ∨ !port.isEmpty) then none
  let host ← if kind = .other then plainHost? host else networkHost? host
  let port ← readPort? kind.usualPort? port
  some
    { credentials := credentials.bind keptCredentials?
      host := String.ofList host
      port := port }

/-- Reads the host of a file, where nothing else can be told. The host one is at is none. -/
def readFile? (text : List Char) : Option Authority := do
  let host ← if text.isEmpty then some [] else networkHost? text
  let host := String.ofList host
  some ⟨none, if host = "localhost" then "" else host, none⟩

/-- The host and what belongs to it as text. -/
def text (authority : Authority) : String :=
  (match authority.credentials with
  | some credentials => credentials ++ "@"
  | none => "") ++
    authority.host ++
    match authority.port with
    | some port => ":" ++ String.ofList (Text.digits port)
    | none => ""

end Authority
end ReleasePipeline
