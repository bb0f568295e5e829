import HttpInterface.Text.Blank
import HttpInterface.Text.Digit
import HttpInterface.Text.Quoted
import HttpInterface.Text.Split
import HttpInterface.Url.Escape
import HttpInterface.Url.Host
import HttpInterface.Url.Parts

/-!
# `HttpInterface.Url`: the normal form of a URL

A URL is split as RFC 3986 does: scheme, authority, path, query, fragment. In
its normal form the scheme and the host are in lower case, a port that the
scheme implies is left out, dot components of the path are resolved, and
characters that a part may not hold are percent-encoded. Escapes that are there
already are left alone, because `%` is allowed in every part.

The port is compared with the default of the scheme as it was written, so only a
scheme in lower case implies a port.
-/

set_option autoImplicit false

namespace HttpInterface

/-- A URL in its normal form. -/
structure Url where
  scheme : String
  userinfo : String
  host : String
  port : Option Int
  path : String
  query : Option String
  fragment : Option String
  deriving DecidableEq, Repr

/-- Why a text is no URL. -/
inductive UrlError where
  | tooLong
  | controlCharacter (char : Char) (position : Nat)
  | invalidPort (text : String)
  /-- What is written like an address is none. -/
  | invalidHost (host : String) (error : Url.HostError)
  | leadingDoubleSlash
  | leadingColon
  /-- Behind an authority a path begins with a slash. -/
  | missingSlash
  | componentTooLong (component : String)
  | componentControl (component : String) (char : Char) (position : Nat)
  /-- A component holds a character that would end it. -/
  | invalidComponent (component : String)
  deriving DecidableEq, Repr

namespace Url

/-! ### Dot components -/

/-- Takes one component of a path to those already resolved, last one first. A
`..` removes the last component unless nothing is left, or only the empty
component in front of the first slash. -/
def resolveStep (resolved : List (List Char)) (component : List Char) :
    List (List Char) :=
  if component = ['.'] then resolved
  else if component = ['.', '.'] then
    match resolved with
    | [] => []
    | [[]] => [[]]
    | _ :: rest => rest
  else component :: resolved

/-- A component that leads to the same place or to the one above. -/
def isDots : List Char → Bool
  | ['.'] | ['.', '.'] => true
  | _ => false

/-- A path without dot components. -/
def resolveDots (path : List Char) : List Char :=
  let components := Text.splitOn '/' path
  if components.any isDots then
    Text.joinWith '/' (components.foldl resolveStep []).reverse
  else path

/-! ### The port -/

/-- The port that a scheme implies. -/
def defaultPort? (scheme : String) : Option Int :=
  [("ftp", (21 : Int)), ("http", 80), ("https", 443), ("ws", 80), ("wss", 443)].lookup scheme

/-- The port, unless there is none or the scheme implies it. -/
def normalPort (scheme : List Char) (cs : List Char) : Except UrlError (Option Int) :=
  if cs.isEmpty then .ok none
  else
    match Text.integerValue? (Text.trim cs) with
    | none => .error (.invalidPort (String.ofList cs))
    | some port =>
      .ok (if defaultPort? (String.ofList scheme) = some port then none else some port)

/-! ### Reading and writing -/

/-- How many characters a URL may have. -/
def maxLength : Nat := 65536

/-- An ASCII control character. -/
def isControl (c : Char) : Bool :=
  c.toNat < 0x20 || c.toNat == 0x7F

/-- A path that may stand without scheme and authority. -/
def checkRelativePath : List Char → Except UrlError Unit
  | '/' :: '/' :: _ => .error .leadingDoubleSlash
  | ':' :: _ => .error .leadingColon
  | _ => .ok ()

/-- Brings the parts of a URL to their normal form. -/
def ofParts (parts : Parts) (authority : Authority) : Except UrlError Url := do
  let host ← (normalHost authority.host).mapError (.invalidHost (String.ofList authority.host))
  let port ← normalPort parts.scheme authority.port
  let hasAuthority := !(authority.userinfo.isEmpty && host.isEmpty && port.isNone)
  if hasAuthority && !parts.path.isEmpty && parts.path.head? ≠ some '/' then
    throw .missingSlash
  let isRelative := parts.scheme.isEmpty && !hasAuthority
  if isRelative then checkRelativePath parts.path
  let path := if isRelative then parts.path else resolveDots parts.path
  pure
    { scheme := String.ofList (parts.scheme.map Char.toLower)
      userinfo := String.ofList (escape unsafeInUserinfo authority.userinfo)
      host := String.ofList host
      port
      path := String.ofList (escape unsafeInPath path)
      query := parts.query.map fun q => String.ofList (escape unsafeInQuery q)
      fragment := parts.fragment.map fun f => String.ofList (escape unsafeInFragment f) }

/-- Reads a URL and brings it to its normal form. -/
def parse (text : String) : Except UrlError Url := do
  let cs := text.toList
  if maxLength < cs.length then throw .tooLong
  if let some c := cs.find? isControl then
    throw (.controlCharacter c (cs.takeWhile (!isControl ·)).length)
  let parts := split cs
  ofParts parts (splitAuthorityParts parts.authority)

/-- The host with its port. -/
def netloc (u : Url) : String :=
  let host := if ':' ∈ u.host.toList then "[" ++ u.host ++ "]" else u.host
  match u.port with
  | none => host
  | some port => host ++ ":" ++ toString port

/-- The text of a URL with a user part given. -/
def textWith (u : Url) (userinfo : String) : String :=
  let authority := (if userinfo.isEmpty then "" else userinfo ++ "@") ++ u.netloc
  (if u.scheme.isEmpty then "" else u.scheme ++ ":") ++
    (if authority.isEmpty then "" else "//" ++ authority) ++ u.path ++
    (match u.query with
      | none => ""
      | some query => "?" ++ query) ++
    (match u.fragment with
      | none => ""
      | some fragment => "#" ++ fragment)

/-- The text of a URL. -/
def text (u : Url) : String :=
  u.textWith u.userinfo

/-- The text of a URL with a password hidden. -/
def maskedText (u : Url) : String :=
  match Text.cut ':' u.userinfo.toList with
  | (_, none) => u.text
  | (user, some _) => u.textWith (String.ofList user ++ ":[secure]")

end Url

/-- The message of a URL error. -/
def UrlError.message : UrlError → String
  | .tooLong => "URL too long"
  | .controlCharacter char position =>
    "Invalid non-printable ASCII character in URL, " ++
      s!"{Text.quoted (String.singleton char)} at position {position}."
  | .invalidPort text => s!"Invalid port: {Text.quoted text}"
  | .invalidHost host .invalidIpv4 => s!"Invalid IPv4 address: {Text.quoted host}"
  | .invalidHost host .invalidIpv6 => s!"Invalid IPv6 address: {Text.quoted host}"
  | .leadingDoubleSlash => "Relative URLs cannot have a path starting with '//'"
  | .leadingColon => "Relative URLs cannot have a path starting with ':'"
  | .missingSlash => "For absolute URLs, path must be empty or begin with '/'"
  | .componentTooLong component => s!"URL component '{component}' too long"
  | .componentControl component char position =>
    s!"Invalid non-printable ASCII character in URL {component} component, " ++
      s!"{Text.quoted (String.singleton char)} at position {position}."
  | .invalidComponent component => s!"Invalid URL component '{component}'"

end HttpInterface
