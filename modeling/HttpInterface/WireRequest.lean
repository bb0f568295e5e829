import HttpInterface.Draft
import HttpInterface.ExpandedRequest
import HttpInterface.Text.Case

/-!
# `HttpInterface.WireRequest`: a request ready to be sent

A wire request has a method in upper case, a URL in its normal form, and every
header name with each value. Some headers are added where they are missing, and
letter case does not count when one is looked for. A body that is not empty gets
its length at the end. In front stand the host of the URL and, for a method that
usually has a body, a length of zero if no other header tells one.
-/

set_option autoImplicit false

namespace HttpInterface

/-- A request ready to be sent. -/
structure WireRequest where
  method : String
  url : Url
  headers : List (String × String)
  content : Bytes
  deriving DecidableEq

/-- Why a request cannot be sent. -/
inductive WireError where
  /-- The target is no URL. -/
  | url (error : UrlError)
  /-- A header name or value is not ASCII, the zone of a host included. -/
  | header (error : CodingError)
  deriving DecidableEq, Repr

namespace WireRequest

/-- Both names are the same but for letter case. -/
def sameName (a b : String) : Bool :=
  Text.lowerAscii a == Text.lowerAscii b

/-- A header of this name is there, in any letter case. -/
def hasHeader (name : String) (headers : List (String × String)) : Bool :=
  headers.any fun h => sameName h.1 name

/-- The methods that usually have a body. -/
def bodyMethods : List String := ["POST", "PUT", "PATCH"]

/-- Checks that a text of a header is ASCII. -/
def checkAscii (text : String) : Except WireError Unit :=
  match Charset.SingleByte.ascii.encode text.toList with
  | .ok _ => .ok ()
  | .error gap => .error (.header (.unencodable .ascii gap))

/-- Checks the name of a header, then its value. -/
def checkHeader (h : String × String) : Except WireError Unit := do
  checkAscii h.1
  checkAscii h.2

/-- The headers with the length of the content, if there is content and no length
yet. -/
def withContentLength (content : Bytes) (headers : List (String × String)) :
    List (String × String) :=
  if content.isEmpty || hasHeader Header.contentLength headers then headers
  else headers ++ [(Header.contentLength, lengthText content)]

/-- The headers that go in front. -/
def leading (method : String) (url : Url) (headers : List (String × String)) :
    List (String × String) :=
  let host :=
    if hasHeader "Host" headers || url.host.isEmpty then [] else [("Host", url.netloc)]
  let length :=
    if hasHeader Header.contentLength headers || hasHeader "Transfer-Encoding" headers ||
        !bodyMethods.contains method then []
    else [(Header.contentLength, "0")]
  host ++ length

/-- A request that is ready to be sent to a target. -/
def make (method target : String) (headers : List (String × String))
    (body : Option Bytes) : Except WireError WireRequest := do
  let url ← (Url.parse target).mapError .url
  headers.forM checkHeader
  let method := Text.upper method
  let content := body.getD []
  let headers := withContentLength content headers
  let front := leading method url headers
  front.forM checkHeader
  pure ⟨method, url, front ++ headers, content⟩

end WireRequest

/-- The wire request of an expanded request behind a base. -/
def ExpandedRequest.toWire (r : ExpandedRequest) (base : Value) :
    Except WireError WireRequest :=
  WireRequest.make r.method (r.target base) r.headerList r.body

/-- The message of a wire error. -/
def WireError.message : WireError → String
  | .url e => e.message
  | .header e => e.message

end HttpInterface
