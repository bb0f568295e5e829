import HttpInterface.Object.Calling
import HttpInterface.Object.UrlMember
import HttpInterface.Predefined.CollectionMember
import HttpInterface.Url.Change

/-!
# `HttpInterface.Predefined.UrlMember`: making URLs of others

A URL is made of a text or of another URL, with components that are given by name. Its
methods give URLs that are seen from it, or that differ in some component.
-/

set_option autoImplicit false

namespace HttpInterface.Predefined

open Evaluation

/-- What has no value is an error of the evaluation. -/
def urlOf (r : Except UrlError Url) : Evaluation Url :=
  match r with
  | .ok u => pure u
  | .error e => raise "InvalidURL" e.message

/-- The text of an object that is one, or that is a URL. -/
def urlText? (o : Object) : Option String :=
  (o.url?.map Url.text).or o.text?

/-- Refuses what is neither a text nor a URL. -/
def refuseUrl {α : Type} (o : Object) : Evaluation α := do
  typeError ("Invalid type for url.  Expected str or httpx.URL, got " ++
    s!"<class '{← kindName o}'>: {← shownText o}")

/-- The URL of an object. -/
def toUrl (o : Object) : Evaluation Url := do
  match o.url?, o.text? with
  | some u, _ => pure u
  | none, some s => urlOf (Url.parse s)
  | none, none => refuseUrl o

/-! ### Pairs of a query -/

/-- The text of a value in a query. -/
def paramText (o : Object) : Evaluation String := do
  match o with
  | .fixed (.constant (.bool b)) => pure (if b then "true" else "false")
  | o => if o.isNone then pure "" else plainText o

/-- The items of a list or a tuple. -/
def rowItems? (o : Object) : Evaluation (Option (List Object)) := do
  match o, ← cellOf? o with
  | .tuple items, _ => pure (some items)
  | _, some (.list items) => pure (some items.toList)
  | _, _ => pure none

/-- The pairs of the query that an object stands for. -/
def paramPairs (engine : Engine) (o : Object) : Evaluation (List (String × String)) := do
  if o.isNone then return []
  if let some s := o.text? then return Url.queryPairs s
  if let some bs := o.bytes? then
    return Url.queryPairs (String.ofList (Charset.Utf8.decode bs))
  match ← rowItems? o with
  | some items =>
    let pairs ← items.mapM fun item => do
      let parts ← elements engine item
      pure (← plainText (parts.headD .none), ← paramText (parts.getD 1 .none))
    pure (Url.grouped pairs)
  | none =>
    match ← entries? o with
    | none => throw (.noMember (← kindName o) "items")
    | some entries => do
      let groups ← entries.mapM fun e => do
        let name ← plainText e.1
        let values := (← rowItems? e.2).getD [e.2]
        values.mapM fun v => do pure (name, ← paramText v)
      pure groups.flatten

/-! ### Components by name -/

/-- The components that a URL may be given by name, with the kinds of their values. -/
def componentKinds : List (String × String) :=
  [("scheme", "str"), ("username", "str"), ("password", "str"), ("userinfo", "bytes"),
   ("host", "str"), ("port", "int"), ("netloc", "bytes"), ("path", "str"), ("query", "bytes"),
   ("raw_path", "bytes"), ("fragment", "str"), ("params", "object")]

/-- The text of a component that is given by name. -/
def componentText (name : String) (o : Object) : Evaluation (Option String) := do
  match componentKinds.lookup name with
  | none => typeError s!"'{name}' is an invalid keyword argument for URL()"
  | some kind =>
    if o.isNone then return none
    let found := match kind with
      | "str" => o.text?
      | "bytes" => o.bytes?.map fun bs => String.ofList (Charset.Utf8.decode bs)
      | "int" => o.int?.map fun i => toString i
      | _ => some ""
    match found with
    | some s => pure (some s)
    | none => typeError s!"Argument '{name}' must be {kind} but got {← kindName o}"

/-- The changes that are given by name. -/
def changesOf (engine : Engine) (named : List (String × Object)) :
    Evaluation (List Url.Change) := do
  let changes ← named.mapM fun e => do pure (e.1, ← componentText e.1 e.2)
  match named.lookup "params" with
  | none => pure changes
  | some o =>
    let pairs ← paramPairs engine o
    let query := if pairs.isEmpty then none else some (Url.queryOfPairs pairs)
    pure (Url.Change.without changes ["params"] ++ [("query", query)])

/-- How a URL takes its arguments. -/
def urlParameters : List SignatureParameter :=
  [{ name := "self" }, { name := "url", isOptional := true },
   { name := "kwargs", kind := .restKeyword }]

/-- The URL of a text or of another URL, as a value of a class. -/
def makeUrl (engine : Engine) (className : String) (args : ArgumentList Object) :
    Evaluation Object := do
  match Signature.bind urlParameters { args with values := .none :: args.values } with
  | .error e => typeError (e.message "URL.__init__")
  | .ok bound =>
    let given := bound.filterMap fun e =>
      match e.2 with
      | .given o => some o
      | _ => none
    let named := args.named.filter fun e => e.1 != "url"
    let changes ← changesOf engine named
    let o := given.getD 1 (.text "")
    let url ← match o.url?, o.text? with
      | some u, _ => urlOf (u.change changes)
      | none, some s => urlOf (Url.Change.apply changes s)
      | none, none => refuseUrl o
    pure (.ofUrl className url)

/-! ### Methods -/

/-- How a method of a URL takes its arguments. -/
def urlCalling (name : String) : Calling :=
  let value : SignatureParameter := { name := "value", isOptional := true }
  match name with
  | "join" => .written [{ name := "url" }]
  | "copy_set_param" | "copy_add_param" => .written [{ name := "key" }, value]
  | "copy_remove_param" => .written [{ name := "key" }]
  | "copy_merge_params" => .written [{ name := "params" }]
  | "copy_with" => .any
  | "__eq__" => .written [{ name := "other" }]
  | _ => .written []

/-- What a method of a URL makes. -/
def callUrl (engine : Engine) (u : Url) (name : String) (given : ArgumentList Object)
    (args : List (Option Object)) : Evaluation Object := do
  let pairs := Url.queryPairs (u.query.getD "")
  let made (r : Except UrlError Url) : Evaluation Object := do pure (.ofUrl "URL" (← urlOf r))
  let key : Evaluation String := plainText (argument args 0)
  let text : Evaluation String := paramText (argument args 1)
  match name with
  | "join" => do made (u.join (← toUrl (argument args 0)))
  | "copy_with" => do
    if !given.values.isEmpty then
      typeError ("URL.copy_with() takes 1 positional argument but " ++
        s!"{given.values.length + 1} were given")
    made (u.change (← changesOf engine given.named))
  | "copy_set_param" => do
    let key ← key
    let pair := (key, ← text)
    let isKnown := pairs.any fun e => e.1 == key
    let first := pairs.findIdx fun e => e.1 == key
    let others := fun (ps : List (String × String)) => ps.filter fun e => e.1 != key
    let changed :=
      if isKnown then others (pairs.take first) ++ [pair] ++ others (pairs.drop first)
      else pairs ++ [pair]
    made (u.withPairs changed)
  | "copy_add_param" => do made (u.withPairs (Url.grouped (pairs ++ [(← key, ← text)])))
  | "copy_remove_param" => do
    let key ← key
    made (u.withPairs (pairs.filter fun e => e.1 != key))
  | "copy_merge_params" => do
    let more ← paramPairs engine (argument args 0)
    let names := more.map Prod.fst
    let kept := (pairs.map Prod.fst).eraseDups.flatMap fun name =>
      (if names.contains name then more else pairs).filter fun e => e.1 == name
    let further := more.filter fun e => !pairs.any fun p => p.1 == e.1
    made (u.withPairs (kept ++ further))
  | _ => throw (.noMember "URL" name)

end HttpInterface.Predefined
