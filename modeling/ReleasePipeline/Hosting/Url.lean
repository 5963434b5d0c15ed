import ReleasePipeline.Hosting.Authority
import ReleasePipeline.Hosting.UrlPath

/-!
# `ReleasePipeline.Hosting.Url`: addresses

An address is read as a browser reads it. Blanks around it and line breaks inside it do not count,
and there is one way to write the same address: what can be told in several ways is told in one,
and characters that cannot stand in an address are written as their bytes. What is sent over the web
are requests to the addresses of two schemes.
-/

set_option autoImplicit false

namespace ReleasePipeline

/-- An address. -/
structure Url where
  /-- The scheme, in lower case. -/
  scheme : String
  authority : Option Authority
  path : UrlPath
  query : Option String
  fragment : Option String
  deriving DecidableEq, Repr

namespace Url

open Authority (splitAtFirst)

/-- The characters that cannot stand in a fragment. -/
def fragmentSpecial : List Char := [' ', '"', '<', '>', '\x60']

/-- The characters that cannot stand in a query. -/
def querySpecial (kind : SchemeKind) : List Char :=
  [' ', '"', '#', '<', '>'] ++ if kind = .other then [] else ['\'']

/-! ### Reading -/

/-- The text without control characters and blanks around it, and without line breaks. -/
def clean (text : List Char) : List Char :=
  let bare := fun (c : Char) => c.toNat ≤ 0x20
  let inner := ((text.dropWhile bare).reverse.dropWhile bare).reverse
  inner.filter fun c => c ≠ '\t' ∧ c ≠ '\n' ∧ c ≠ '\r'

/-- Reads the host, and gives the path behind it. -/
def readHost? (kind : SchemeKind) (text : List Char) : Option (Option Authority × UrlPath) := do
  let authority ← Authority.read? kind (text.takeWhile fun c => !kind.endsAuthority c)
  some (some authority, .read kind (text.dropWhile fun c => !kind.endsAuthority c))

/-- Reads the host of a file and its path. A drive is no host, and a file on a drive is on none. -/
def readFile? (text : List Char) : Option (Option Authority × UrlPath) :=
  let slash := SchemeKind.file.isSlash
  let of (authority : Authority) (path : List Char) : Option Authority × UrlPath :=
    let names := UrlPath.readNames .file path
    let authority :=
      if names.head?.any UrlPath.isDrive then { authority with host := "" } else authority
    (some authority, .ofNames (UrlPath.dropEmpty names))
  match text with
  | a :: b :: rest =>
    let host := rest.takeWhile fun c => !slash c
    if slash a && slash b && !UrlPath.isDrive host then do
      let authority ← Authority.readFile? host
      some (of authority (rest.dropWhile fun c => !slash c))
    else if slash a && slash b then some (of ⟨none, "", none⟩ rest)
    else some (of ⟨none, "", none⟩ text)
  | _ => some (of ⟨none, "", none⟩ text)

/-- Reads what stands between the scheme of an address and its query. -/
def readPlace? (kind : SchemeKind) (text : List Char) : Option (Option Authority × UrlPath) :=
  match kind, text with
  -- Any number of slashes leads to a host.
  | .network _, _ => readHost? kind (text.dropWhile kind.isSlash)
  | .file, _ => readFile? text
  | .other, '/' :: '/' :: rest => readHost? kind rest
  | .other, '/' :: _ => some (none, .read kind text)
  | .other, _ => some (none, .plain (String.ofList (Text.percentEncode [] text)))

/-- Reads an address. -/
def ofText? (text : String) : Option Url := do
  let (scheme, rest) ← cutScheme? (clean text.toList)
  let kind := SchemeKind.ofScheme scheme
  -- The fragment is cut off first, since it may hold question marks.
  let (rest, fragment) := splitAtFirst (· == '#') rest
  let (rest, query) := splitAtFirst (· == '?') rest
  let (authority, path) ← readPlace? kind rest
  some
    { scheme := scheme
      authority := authority
      path := path
      query := query.map fun text => String.ofList (Text.percentEncode (querySpecial kind) text)
      fragment := fragment.map fun text => String.ofList (Text.percentEncode fragmentSpecial text) }

/-! ### Queries -/

/-- A text as it stands in a form: blanks are plus signs, and all but letters, digits and four
marks is written as bytes. -/
def formText (text : String) : List Char :=
  text.toList.flatMap fun c =>
    if c = ' ' then ['+']
    else if c.isAlphanum || c ∈ ['*', '-', '.', '_'] then [c]
    else Text.percent c

/-- Adds names and values to the query. -/
def withQuery (url : Url) (pairs : List (String × String)) : Url :=
  let added := pairs.map fun (name, value) => String.ofList (formText name ++ '=' :: formText value)
  -- An empty query leaves no ampersand in front of what is added.
  let before := match url.query with
    | some query => if query.isEmpty then [] else [query]
    | none => []
  match before ++ added with
  | [] => { url with query := none }
  | parts => { url with query := some (String.intercalate "&" parts) }

/-! ### Writing -/

/-- The path with its query, as it is asked for. -/
def target (url : Url) : String :=
  url.path.text ++
    match url.query with
    | some query => "?" ++ query
    | none => ""

/-- The address as text. -/
def text (url : Url) : String :=
  url.scheme ++ ":" ++
    (match url.authority with
    | some authority => "//" ++ authority.text
    -- A dot keeps the first name from being taken for a host.
    | none => if url.path.looksLikeHost then "/." else "") ++
    url.target ++
    match url.fragment with
    | some fragment => "#" ++ fragment
    | none => ""

/-! ### Sending -/

/-- The host of an address, if it has one. -/
def host? (url : Url) : Option String :=
  (url.authority.map (·.host)).filter (· ≠ "")

/-- The schemes of the web. -/
def webSchemes : List String := ["http", "https"]

/-- The most bytes of an address that can be sent. -/
def maxBytes : Nat := 65534

/-- The characters of a host that cannot be sent. -/
def unsendable : List Char := ['"', '\x60', '\x7b', '\x7d']

/-- Whether an address can be sent. Some addresses of the web that can be read cannot. -/
def isSendable (url : Url) : Bool :=
  webSchemes.contains url.scheme &&
    url.host?.any (fun host => host.toList.all (!unsendable.contains ·)) &&
    url.text.utf8ByteSize ≤ maxBytes

end Url
end ReleasePipeline
