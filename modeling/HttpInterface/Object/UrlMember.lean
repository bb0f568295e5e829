import HttpInterface.Object.Collection
import HttpInterface.Url.Component

/-!
# `HttpInterface.Object.UrlMember`: what a URL says about itself

A URL as a value of an evaluation, and its members that are no methods. Components that are
kept as they are sent are bytes.
-/

set_option autoImplicit false

namespace HttpInterface

/-- A URL as a value of a class. -/
def Object.ofUrl (className : String) (u : Url) : Object :=
  .fixed (.other
    { kind := "URL"
      name := Option.none
      text := className ++ "(" ++ Text.quoted u.maskedText ++ ")"
      plainText := some u.text })

/-- The URL that an object is. -/
def Object.url? : Object → Option Url
  | .fixed (.other { kind := "URL", plainText := some s, .. }) => some (Url.ofNormalText s)
  | _ => Option.none

namespace Evaluation

/-- A text as the bytes that are sent. -/
def sentBytes (s : String) : Object := .bytes (Charset.Utf8.encode s.toList)

/-- The first value of every name in a query. -/
def paramEntries (query : String) : List (Object × Object) :=
  let pairs := Url.queryPairs query
  (pairs.map Prod.fst).eraseDups.filterMap fun name =>
    (pairs.lookup name).map fun value => (.text name, .text value)

/-- A member of a URL. -/
def urlMember? (u : Url) (name : String) : Evaluation (Option Object) :=
  match name with
  | "scheme" => pure (some (.text u.scheme))
  | "raw_scheme" => pure (some (sentBytes u.scheme))
  | "userinfo" => pure (some (sentBytes u.userinfo))
  | "username" => pure (some (.text u.username))
  | "password" => pure (some (.text u.password))
  | "host" => pure (some (.text u.host))
  | "raw_host" => pure (some (sentBytes u.host))
  | "port" => pure (some ((u.port.map Object.int).getD .none))
  | "netloc" => pure (some (sentBytes u.netloc))
  | "path" => pure (some (.text (Percent.unquote u.askedPath)))
  | "raw_path" => pure (some (sentBytes u.pathAndQuery))
  | "query" => pure (some (sentBytes (u.query.getD "")))
  | "params" => some <$> makeDict (paramEntries (u.query.getD ""))
  | "fragment" => pure (some (.text (Percent.unquote (u.fragment.getD ""))))
  | "is_absolute_url" => pure (some (.bool u.isAbsolute))
  | "is_relative_url" => pure (some (.bool !u.isAbsolute))
  | _ => pure none

end Evaluation

end HttpInterface
