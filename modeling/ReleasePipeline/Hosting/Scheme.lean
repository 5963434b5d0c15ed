/-!
# `ReleasePipeline.Hosting.Scheme`: the schemes of addresses

An address begins with its scheme, and the scheme says how the rest is read. Schemes of networks
always have a host, and in their addresses a backslash is a slash; those of files may have one. Of
all other schemes nothing is known but what is common to all addresses.
-/

set_option autoImplicit false

namespace ReleasePipeline

/-- How the addresses of a scheme are read. -/
inductive SchemeKind where
  /-- There is a host, which is asked at a usual port if no other one is given. -/
  | network (usualPort : Nat)
  | file
  | other
  deriving DecidableEq, Repr

namespace SchemeKind

/-- How the addresses of a scheme in lower case are read. -/
def ofScheme (scheme : String) : SchemeKind :=
  match scheme with
  | "http" | "ws" => .network 80
  | "https" | "wss" => .network 443
  | "ftp" => .network 21
  | "file" => .file
  | _ => .other

/-- The usual port, if there is one. -/
def usualPort? : SchemeKind → Option Nat
  | .network usualPort => some usualPort
  | .file | .other => none

/-- Whether a character is a slash in the addresses of a scheme. -/
def isSlash (kind : SchemeKind) (c : Char) : Bool :=
  c == '/' || (c == '\\' && kind ≠ .other)

/-- Whether a character ends the host, and what belongs to it, in the addresses of a scheme. -/
def endsAuthority (kind : SchemeKind) (c : Char) : Bool :=
  kind.isSlash c || c == '?' || c == '#'

end SchemeKind

/-- Whether a character may stand in a scheme. -/
def isSchemeChar (c : Char) : Bool :=
  c.isAlphanum || c == '+' || c == '-' || c == '.'

/-- The scheme in lower case that a text begins with, and what follows its colon. -/
def cutScheme? (text : List Char) : Option (String × List Char) :=
  match text.head?, text.dropWhile isSchemeChar with
  | some first, ':' :: rest =>
    if first.isAlpha then
      some (String.ofList ((text.takeWhile isSchemeChar).map Char.toLower), rest)
    else none
  | _, _ => none

end ReleasePipeline
