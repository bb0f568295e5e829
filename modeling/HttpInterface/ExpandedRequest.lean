import HttpInterface.Bytes
import HttpInterface.OrderedMap
import HttpInterface.PathAndQuery
import HttpInterface.Value

/-!
# `HttpInterface.ExpandedRequest`: a request without gaps

In an expanded request every placeholder has been replaced, and the url and the
queries are percent-encoded. Its target is its url behind a base URL, whose
slashes at the end are dropped, with the query behind a `?` if there is one.
-/

set_option autoImplicit false

namespace HttpInterface

/-- A request without gaps. -/
structure ExpandedRequest where
  method : String
  url : String
  queries : OrderedMap String (List (Option String)) := .empty
  headers : OrderedMap String (List String) := .empty
  body : Option Bytes := none
  deriving DecidableEq

namespace ExpandedRequest

/-- The entries of the query, key by key. -/
def queryEntries (r : ExpandedRequest) : List QueryEntry :=
  r.queries.entries.flatMap fun e => e.2.map fun value => (e.1, value)

/-- The query as one text. -/
def queryString (r : ExpandedRequest) : String :=
  QueryEntry.join r.queryEntries

/-- A text without the slashes at its end. -/
def trimSlashes (s : String) : String :=
  String.ofList (s.toList.reverse.dropWhile (· == '/')).reverse

/-- The url behind a base, if there is one. -/
def basedUrl (r : ExpandedRequest) (base : Value) : String :=
  if base.isNull then r.url else trimSlashes base.display ++ r.url

/-- The target of the request behind a base, the query included. -/
def target (r : ExpandedRequest) (base : Value) : String :=
  let query := r.queryString
  if query.isEmpty then r.basedUrl base else r.basedUrl base ++ "?" ++ query

/-- Every header name with each of its values. -/
def headerList (r : ExpandedRequest) : List (String × String) :=
  r.headers.entries.flatMap fun e => e.2.map fun value => (e.1, value)

end ExpandedRequest

end HttpInterface
