import HttpInterface.Bytes
import HttpInterface.OrderedMap
import HttpInterface.Placeholder

/-!
# `HttpInterface.Template`: a request with gaps

A template describes one HTTP request in which placeholders stand for what a
call will supply. They may stand in the url, in query keys and values, in header
values and in the body template; header names hold none. A template has a body,
which is bytes, or a body template, which is text, or neither.

Two templates are the same when all their parts are; the order of query keys and
of header names does not count. The parts that a hash is taken of keep that
order.
-/

set_option autoImplicit false

namespace HttpInterface

/-- A request with gaps. -/
structure Template where
  method : String
  url : String := ""
  queries : OrderedMap String (List (Option String)) := .empty
  headers : OrderedMap String (List String) := .empty
  body : Option Bytes := none
  bodyTemplate : Option String := none
  deriving DecidableEq, Inhabited

namespace Template

/-- The texts of the url, the queries and the headers that may hold
placeholders, in the order in which they are read. -/
def httpTexts (t : Template) : List String :=
  t.url :: t.queries.entries.flatMap (fun e => e.1 :: e.2.filterMap id) ++
    t.headers.values.flatten

/-- The names that occur in the url, the queries and the headers. -/
def httpPlaceholders (t : Template) : List String :=
  Placeholder.namesIn t.httpTexts

/-- The names that occur anywhere in the template. -/
def placeholders (t : Template) : List String :=
  Placeholder.namesIn (t.httpTexts ++ t.bodyTemplate.toList)

/-- The names that need a value other than none: those of the url, the query
keys and the body template. -/
def requiredPlaceholders (t : Template) : List String :=
  Placeholder.namesIn (t.url :: t.queries.keys ++ t.bodyTemplate.toList)

/-- Both templates have the same parts, query keys and header names in any
order. -/
def same (a b : Template) : Bool :=
  a.method == b.method && a.url == b.url &&
    a.queries.equivBy (· == ·) b.queries && a.headers.equivBy (· == ·) b.headers &&
    a.body == b.body && a.bodyTemplate == b.bodyTemplate

/-- What a hash of a template is taken of. -/
structure HashKey where
  method : String
  url : String
  queries : List (String × List (Option String))
  headers : List (String × List String)
  body : Option Bytes
  bodyTemplate : Option String
  deriving DecidableEq, Repr

/-- The parts that a hash of the template is taken of. -/
def hashKey (t : Template) : HashKey :=
  ⟨t.method, t.url, t.queries.entries, t.headers.entries, t.body, t.bodyTemplate⟩

end Template

end HttpInterface
