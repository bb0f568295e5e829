import HttpInterface.Url
import HttpInterface.Url.Component

/-!
# `HttpInterface.Url.Change`: URLs with other components

Components of a URL are replaced by name. Some names stand for several components, and the
user name and the password make up one. A component may not hold a character that would
end it. What is not replaced stays as it is, and the whole is brought to its normal form.

A reference is a URL of which the first parts may be missing; they are taken from a base.
A path that does not begin with a slash takes the place of the last component of the path of
the base.
-/

set_option autoImplicit false

namespace HttpInterface

namespace Url

/-- A component by its name, with its text if it is not taken away. -/
abbrev Change := String × Option String

namespace Change

/-- The text of a name among changes; the last one counts. -/
def find? (changes : List Change) (name : String) : Option (Option String) :=
  (changes.reverse.find? fun e => e.1 == name).map Prod.snd

/-- Changes without some names. -/
def without (changes : List Change) (names : List String) : List Change :=
  changes.filter fun e => !names.contains e.1

/-- A text cut at the first `sep`, with nothing behind it if there is none. -/
def cutText (sep : Char) (s : String) : String × Option String :=
  let (front, behind) := Text.cut sep s.toList
  (String.ofList front, behind.map String.ofList)

/-- Host and port in the place of both in one. -/
def splitNetloc (changes : List Change) : List Change :=
  match find? changes "netloc" with
  | none => changes
  | some s =>
    let (host, port) := cutText ':' (s.getD "")
    without changes ["netloc"] ++ [("host", some host), ("port", some (port.getD ""))]

/-- The user part in the place of the user name and the password. -/
def joinUser (changes : List Change) : List Change :=
  match find? changes "username", find? changes "password" with
  | none, none => changes
  | user, password =>
    let escaped (s : Option (Option String)) : String :=
      String.ofList (escape (':' :: unsafeInUserinfo) ((s.bind id).getD "").toList)
    let user := escaped user
    let password := escaped password
    let both := if password.isEmpty then user else user ++ ":" ++ password
    without changes ["username", "password"] ++ [("userinfo", some both)]

/-- Path and query in the place of both in one. -/
def splitRawPath (changes : List Change) : List Change :=
  match find? changes "raw_path" with
  | none => changes
  | some s =>
    let (path, query) := cutText '?' (s.getD "")
    without changes ["raw_path"] ++ [("path", some path), ("query", query)]

/-- Brackets around a host with colons. -/
def bracketHost (changes : List Change) : List Change :=
  changes.map fun e =>
    match e with
    | ("host", some host) =>
      let isBracketed := host.startsWith "[" && host.endsWith "]"
      (e.1, some (if ':' ∈ host.toList && !isBracketed then "[" ++ host ++ "]" else host))
    | e => e

/-- A component holds no character that would end it. -/
def isWhole (name : String) (cs : List Char) : Bool :=
  let lacks (ends : List Char) : Bool := cs.all fun c => !ends.contains c
  match name with
  | "scheme" => isScheme cs
  | "authority" => lacks ['/', '?', '#']
  | "path" => lacks ['?', '#']
  | "query" => lacks ['#']
  | "userinfo" => lacks ['@']
  | "host" => lacks [':', '@'] || (bracketed? cs).isSome
  | _ => true

/-- Checks the text of a component. -/
def check (e : Change) : Except UrlError Unit := do
  let cs := (e.2.getD "").toList
  if maxLength < cs.length then throw (.componentTooLong e.1)
  if let some c := cs.find? isControl then
    throw (.componentControl e.1 c (cs.takeWhile (!isControl ·)).length)
  if !isWhole e.1 cs then throw (.invalidComponent e.1)

/-- The parts of a text with some of them replaced. -/
def apply (changes : List Change) (text : String) : Except UrlError Url := do
  let cs := text.toList
  if maxLength < cs.length then throw .tooLong
  if let some c := cs.find? isControl then
    throw (.controlCharacter c (cs.takeWhile (!isControl ·)).length)
  let changes := bracketHost (splitRawPath (joinUser (splitNetloc changes)))
  changes.forM check
  let parts := split cs
  let part (name : String) (own : List Char) : List Char :=
    match find? changes name with
    | some s => (s.getD "").toList
    | none => own
  let part? (name : String) (own : Option (List Char)) : Option (List Char) :=
    match find? changes name with
    | some s => s.map String.toList
    | none => own
  let authority := splitAuthorityParts (part "authority" parts.authority)
  ofParts
    { parts with
      scheme := part "scheme" parts.scheme
      path := part "path" parts.path
      query := part? "query" parts.query
      fragment := part? "fragment" parts.fragment }
    { userinfo := part "userinfo" authority.userinfo
      host := part "host" authority.host
      port := part "port" authority.port }

end Change

/-- The authority of a URL. -/
def authority (u : Url) : String :=
  (if u.userinfo.isEmpty then "" else u.userinfo ++ "@") ++ u.netloc

/-- A URL with other components. -/
def change (u : Url) (changes : List Change) : Except UrlError Url :=
  if changes.isEmpty then .ok u
  else
    let own : List Change :=
      [("scheme", some u.scheme), ("authority", some u.authority), ("path", some u.path),
       ("query", u.query), ("fragment", u.fragment)]
    Change.apply (own ++ changes) ""

/-- A URL with other pairs in its query. -/
def withPairs (u : Url) (pairs : List (String × String)) : Except UrlError Url :=
  u.change [("query", if pairs.isEmpty then none else some (queryOfPairs pairs))]

/-! ### A URL that is seen from another -/

/-- The schemes of URLs that references may be seen from. -/
def hierarchicalSchemes : List String :=
  ["", "ftp", "http", "gopher", "nntp", "imap", "wais", "file", "https", "shttp", "mms",
   "prospero", "rtsp", "rtsps", "rtspu", "sftp", "svn", "svn+ssh", "ws", "wss"]

/-- A component that is taken to those before it, last one first. -/
def descend (above : List (List Char)) (component : List Char) : List (List Char) :=
  if component = ['.'] then above
  else if component = ['.', '.'] then above.drop 1
  else component :: above

/-- The path of a reference, seen from the path of a base. -/
def joinPaths (base path : List Char) : List Char :=
  let components :=
    if path.head? = some '/' then Text.splitOn '/' path
    else
      let parts := Text.splitOn '/' base
      let parts := if parts.getLast? = some [] then parts else parts.dropLast
      let all := parts ++ Text.splitOn '/' path
      let inner := ((all.drop 1).dropLast).filter fun part => !part.isEmpty
      all.take 1 ++ inner ++ (all.drop 1).drop ((all.drop 1).length - 1)
  let resolved := components.foldl descend []
  let resolved := if (components.getLast?).any isDots then [] :: resolved else resolved
  let joined := Text.joinWith '/' resolved.reverse
  if joined.isEmpty then ['/'] else joined

/-- The text of parts. -/
def textOfParts (p : Parts) : String :=
  let around (mark : String) (part : List Char) : String :=
    if part.isEmpty then "" else mark ++ String.ofList part
  let path := String.ofList p.path
  let path :=
    if p.authority.isEmpty || path.isEmpty || path.startsWith "/" then path else "/" ++ path
  (if p.scheme.isEmpty then "" else String.ofList p.scheme ++ ":") ++
    (if p.authority.isEmpty then "" else "//" ++ String.ofList p.authority) ++ path ++
    around "?" (p.query.getD []) ++ around "#" (p.fragment.getD [])

/-- The text of a reference, seen from the text of a base. -/
def joinTexts (base reference : String) : String :=
  if base.isEmpty then reference
  else if reference.isEmpty then base
  else
    let b := split base.toList
    let r := split reference.toList
    let scheme := if r.scheme.isEmpty then b.scheme else r.scheme.map Char.toLower
    if scheme ≠ b.scheme || !hierarchicalSchemes.contains (String.ofList scheme) then reference
    else if !r.authority.isEmpty then textOfParts { r with scheme }
    else if r.path.isEmpty then
      let query := if (r.query.getD []).isEmpty then b.query else r.query
      textOfParts { b with query, fragment := r.fragment }
    else
      textOfParts
        { scheme
          authority := b.authority
          path := joinPaths b.path r.path
          query := r.query
          fragment := r.fragment }

/-- A reference seen from a base. -/
def join (base reference : Url) : Except UrlError Url :=
  parse (joinTexts base.text reference.text)

end Url

end HttpInterface
