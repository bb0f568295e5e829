import HttpInterface.OrderedMap
import HttpInterface.Percent
import HttpInterface.Text.Digit
import HttpInterface.Text.Split
import HttpInterface.Url

/-!
# `HttpInterface.Url.Component`: what a URL says

The components of a URL in its normal form, decoded where a reader wants them so.

A query holds pairs of names and values with `&` between them. In both `+` stands for a
space, and other characters are escaped. Values of one name are kept together, where the
name stands first.
-/

set_option autoImplicit false

namespace HttpInterface

namespace Url

/-- The URL of a text in normal form. -/
def ofNormalText (text : String) : Url :=
  let parts := split text.toList
  let authority := splitAuthorityParts parts.authority
  { scheme := String.ofList parts.scheme
    userinfo := String.ofList authority.userinfo
    host := String.ofList ((bracketed? authority.host).getD authority.host)
    port := Text.integerValue? authority.port
    path := String.ofList parts.path
    query := parts.query.map String.ofList
    fragment := parts.fragment.map String.ofList }

/-- The user name. -/
def username (u : Url) : String :=
  Percent.unquote (String.ofList (Text.cut ':' u.userinfo.toList).1)

/-- The password. -/
def password (u : Url) : String :=
  Percent.unquote (String.ofList ((Text.cut ':' u.userinfo.toList).2.getD []))

/-- The path as it is asked for: there is always one. -/
def askedPath (u : Url) : String :=
  if u.path.isEmpty then "/" else u.path

/-- The path with the query behind it. -/
def pathAndQuery (u : Url) : String :=
  u.askedPath ++ (u.query.map ("?" ++ ·)).getD ""

/-- The URL says where it leads on its own. -/
def isAbsolute (u : Url) : Bool :=
  !u.scheme.isEmpty && !u.host.isEmpty

/-! ### The pairs of a query -/

/-- Pairs with those of one name behind the first of them. -/
def grouped (pairs : List (String × String)) : List (String × String) :=
  (pairs.map Prod.fst).eraseDups.flatMap fun name => pairs.filter fun e => e.1 == name

/-- A name or a value as it is written in a query. -/
def unescapeField (cs : List Char) : String :=
  Percent.unquote (String.ofList (cs.map fun c => if c = '+' then ' ' else c))

/-- The pair of a piece of a query. -/
def pairOf (piece : List Char) : String × String :=
  let (name, value) := Text.cut '=' piece
  (unescapeField name, unescapeField (value.getD []))

/-- The pairs of a query. -/
def queryPairs (query : String) : List (String × String) :=
  let pieces := (Text.splitOn '&' query.toList).filter fun piece => !piece.isEmpty
  grouped (pieces.map pairOf)

/-- A name or a value written into a query. -/
def escapeField (s : String) : String :=
  let spaced := (Text.splitOn ' ' s.toList).map fun piece =>
    (Percent.quote (String.ofList piece)).toList
  String.ofList (Text.joinWith '+' spaced)

/-- The query of pairs. -/
def queryOfPairs (pairs : List (String × String)) : String :=
  "&".intercalate (pairs.map fun e => escapeField e.1 ++ "=" ++ escapeField e.2)

end Url

end HttpInterface
