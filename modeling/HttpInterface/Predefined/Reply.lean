import HttpInterface.Charset.Recovery
import HttpInterface.Object.Calling
import HttpInterface.Object.JsonForm
import HttpInterface.Predefined.CollectionMember
import HttpInterface.StatusCode

/-!
# `HttpInterface.Predefined.Reply`: replies as values

A reply has a status, headers and a body. The body is given as bytes, as a text or as a
document; the last two say in a header what they are. A reply that belongs to no request
does not know where it came from.
-/

set_option autoImplicit false

namespace HttpInterface.Predefined

open Evaluation

/-- How a reply takes its arguments. -/
def replyParameters : List SignatureParameter :=
  let byName (name : String) : SignatureParameter := { name, kind := .keyword, isOptional := true }
  [{ name := "self" }, { name := "status_code" }] ++
    ["headers", "content", "text", "html", "json", "stream", "request", "extensions", "history",
     "default_encoding"].map byName

/-- The bytes of a body with the header that says what they are. -/
structure ReplyBody where
  bytes : Bytes := []
  contentType? : Option String := none
  /-- The length is told although the body is empty. -/
  tellsLength : Bool := true

/-- The bytes of a text. -/
def textBytes (o : Object) : Evaluation Bytes := do
  match o.text? with
  | some s => pure (Charset.Utf8.encode s.toList)
  | none => throw (.noMember (← kindName o) "encode")

/-- The body that is given by name. -/
def replyBody (engine : Engine) (given? : String → Option Object) : Evaluation ReplyBody := do
  if let some o := given? "content" then
    if let some s := o.text? then
      return { bytes := Charset.Utf8.encode s.toList, tellsLength := !s.isEmpty }
    if let some bs := o.bytes? then return { bytes := bs, tellsLength := !bs.isEmpty }
    match ← elements? engine o with
    | some parts => do
      let bytes ← parts.mapM fun part => do pure ((← bytesOf? part).getD [])
      return { bytes := bytes.flatten, tellsLength := false }
    | none => typeError s!"Unexpected type for 'content', <class '{← kindName o}'>"
  if let some o := given? "text" then
    return { bytes := ← textBytes o, contentType? := some "text/plain; charset=utf-8" }
  if let some o := given? "html" then
    return { bytes := ← textBytes o, contentType? := some "text/html; charset=utf-8" }
  if let some o := given? "json" then
    let d ← jsonOf o
    return { bytes := Charset.Utf8.encode d.dense.toList, contentType? := some "application/json" }
  pure { tellsLength := false }

/-- A text in lower case, as the names of headers are compared. -/
def lowerName (s : String) : String := String.ofList (s.toList.map Char.toLower)

/-- The headers that a value stands for. -/
def headerEntries (engine : Engine) (o : Object) : Evaluation (List (String × String)) := do
  let field (o : Object) : Evaluation String := do
    match o.text?, o.bytes? with
    | some s, _ => pure s
    | none, some bs => pure (String.ofList (Charset.Utf8.decode bs))
    | none, none => typeError s!"Header value must be str or bytes, not <class '{← kindName o}'>"
  if o.isNone then return []
  match ← entries? o with
  | some entries => entries.mapM fun e => do pure (lowerName (← field e.1), ← field e.2)
  | none =>
    (← elements engine o).mapM fun item => do
      let parts ← elements engine item
      pure (lowerName (← field (parts.headD .none)), ← field (parts.getD 1 .none))

/-- The charset that a content type names. -/
def charsetOf? (contentType : String) : Option String :=
  (Text.splitOn ';' contentType.toList).findSome? fun part =>
    let (name, value) := Text.cut '=' (Text.trim part)
    if lowerName (String.ofList name) = "charset" then
      value.map fun cs => String.ofList (cs.filter fun c => c != '"')
    else none

/-- The members of a reply by the status and what it is made of. -/
def replyMembers (status : Object) (headers : List (String × String)) (body : Bytes)
    (usual : String) : Evaluation (List (String × Object)) := do
  let code := status.int?.getD 0
  let sort? := StatusCode.sort? code
  let isSort (sort : StatusCode.ReplySort) : Object := .bool (sort? == some sort)
  let isError := sort? == some .clientError || sort? == some .serverError
  let charset? := (headers.lookup "content-type").bind charsetOf?
  let known? := charset?.filter fun name => (Charset.ofName? name).isSome
  let charset := known?.getD usual
  let text := ((Charset.decode charset body).toOption.map String.ofList).getD ""
  let leads := StatusCode.leadingElsewhere.contains code && (headers.lookup "location").isSome
  let headers ← makeDict (headers.map fun e => (.text e.1, .text e.2))
  pure
    [("status_code", status), ("reason_phrase", .text (StatusCode.phrase code)),
     ("headers", headers), ("content", .bytes body), ("text", .text text),
     ("encoding", .text charset), ("charset_encoding", (charset?.map Object.text).getD .none),
     ("is_informational", isSort .informational), ("is_success", isSort .success),
     ("is_redirect", isSort .redirect), ("is_client_error", isSort .clientError),
     ("is_server_error", isSort .serverError), ("is_error", .bool isError),
     ("has_redirect_location", .bool leads), ("http_version", .text "HTTP/1.1"),
     ("history", ← makeList []), ("next_request", .none), ("extensions", ← makeDict []),
     ("default_encoding", .text usual), ("is_closed", .bool true),
     ("is_stream_consumed", .bool true), ("num_bytes_downloaded", .int 0),
     ("links", ← makeDict [])]

/-- A reply as a value of a class. -/
def makeReply (engine : Engine) (cls : Object) (args : ArgumentList Object) :
    Evaluation Object := do
  match Signature.bind replyParameters { args with values := .none :: args.values } with
  | .error e => typeError (e.message "Response.__init__")
  | .ok bound =>
    let found := bound.filterMap fun e =>
      match e.2 with
      | .given o => some (e.1.name, o)
      | _ => none
    let given? (name : String) : Option Object :=
      (found.lookup name).filter fun o => !o.isNone
    let status := (found.lookup "status_code").getD .none
    let own ← headerEntries engine ((given? "headers").getD .none)
    let body ← replyBody engine given?
    let length := ("content-length", toString body.bytes.length)
    let told := if body.tellsLength then [length] else []
    let told := told ++ body.contentType?.toList.map fun s => ("content-type", s)
    let headers := own ++ told.filter fun e => (own.lookup e.1).isNone
    let usual := ((given? "default_encoding").bind Object.text?).getD "utf-8"
    make (.instance cls (← replyMembers status headers body.bytes usual))

/-- What a method of a reply does. -/
def callReply (members : List (String × Object)) (name : String) : Evaluation Object := do
  let content := (members.lookup "content").getD .none
  match name with
  | "read" => pure content
  | "close" => pure .none
  | "json" =>
    let text := ((members.lookup "text").bind Object.text?).getD ""
    match Json.read? text with
    | some d => ofJson d
    | none => raise "JSONDecodeError" "Expecting value: line 1 column 1 (char 0)"
  | "raise_for_status" =>
    raise "RuntimeError" ("Cannot call \x60raise_for_status\x60 as the request " ++
      "instance has not been set on this response.")
  | "iter_bytes" => make (.iterator "generator" (.values [content]))
  | "iter_text" =>
    make (.iterator "generator" (.values [(members.lookup "text").getD .none]))
  | _ => throw (.noMember "Response" name)

end HttpInterface.Predefined
