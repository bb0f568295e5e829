import HttpInterface.CompiledMethod
import HttpInterface.Declaration
import HttpInterface.ExpandedRequest
import HttpInterface.Record
import HttpInterface.Settings
import HttpInterface.Template

/-!
# `HttpInterface.Record.OfFields`: records given field by field

Settings, parameters, declarations, templates, compiled methods and expanded
requests can be given as values by field names. Types are not values: they and
the records inside a record are given beside its fields. A field without a
default has to be there, an unknown field means nothing, and issues are reported
in the order of the fields.
-/

set_option autoImplicit false

namespace HttpInterface

open Record

/-- A list of texts. -/
def Record.texts : Value → Checked (List String) :=
  sequence text

/-- The problem of a charset's name that stands for no charset. -/
def Settings.charsetProblem? (name : String) : Option Problem :=
  match Charset.lookUp name with
  | .ok _ => none
  | .error .nulInName => some .nulInCharset
  | .error _ => some (.unknownCharset name)

/-- Settings given by their fields. -/
def Settings.ofFields (fields : Fields) : Checked Settings :=
  Settings.mk
    <$> withDefault fields "body_charset" "utf-8" (fun v => (text v).withTest charsetProblem?)
    <*> withDefault fields "legacy_names" true truth

/-- Settings given by environment variables. -/
def Settings.ofEnvironment (lookup : String → Option String) : Checked Settings :=
  let settings := Settings.ofVariables lookup
  (Checked.ok settings).withTest (fun s => charsetProblem? s.bodyCharset)
    |>.inside "body_charset"

/-- A parameter given by its fields, with its type beside them. -/
def Parameter.ofFields (fields : Fields) (type : TypeExpr) : Checked Parameter :=
  (fun index name primaryName legacyName isUrl =>
      { index, name, type, primaryName, legacyName, isUrl })
    <$> required fields "index" integer
    <*> required fields "name" text
    <*> withDefault fields "param_name" none (optional text)
    <*> withDefault fields "legacy_name" none (optional text)
    <*> withDefault fields "is_url" false truth

/-- A declaration given by its fields, with its parameters and its type beside
them. -/
def Declaration.ofFields (fields : Fields) (parameters : List Parameter)
    (returnType : TypeExpr) : Checked Declaration :=
  (fun declaringType methodName requestLine classHeaders methodHeaders body =>
      { declaringType, methodName, requestLine, classHeaders, methodHeaders, body, parameters
        returnType })
    <$> required fields "declaring_type" text
    <*> required fields "method_name" text
    <*> withDefault fields "request_line" none (optional text)
    <*> withDefault fields "class_headers" [] texts
    <*> withDefault fields "method_headers" [] texts
    <*> withDefault fields "body" none (optional text)

/-- The queries of a template or of an expanded request. -/
def Record.queries (fields : Fields) : Checked (OrderedMap String (List (Option String))) :=
  withDefault fields "queries" .empty (mapping text (sequence (optional text)))

/-- The headers of a template or of an expanded request. -/
def Record.headers (fields : Fields) : Checked (OrderedMap String (List String)) :=
  withDefault fields "headers" .empty (mapping text texts)

/-- The body of a template or of an expanded request. -/
def Record.body (fields : Fields) : Checked (Option Bytes) :=
  withDefault fields "body" none (optional bytes)

/-- A template given by its fields. -/
def Template.ofFields (fields : Fields) : Checked Template :=
  Template.mk
    <$> required fields "method" text
    <*> withDefault fields "url" "" text
    <*> Record.queries fields
    <*> Record.headers fields
    <*> Record.body fields
    <*> withDefault fields "body_template" none (optional text)

/-- An expanded request given by its fields. -/
def ExpandedRequest.ofFields (fields : Fields) : Checked ExpandedRequest :=
  ExpandedRequest.mk
    <$> required fields "method" text
    <*> required fields "url" text
    <*> Record.queries fields
    <*> Record.headers fields
    <*> Record.body fields

/-- A compiled method given by its fields, with its template and its types beside
them. -/
def CompiledMethod.ofFields (fields : Fields) (template : Template)
    (bodyType returnType : TypeExpr) : Checked CompiledMethod :=
  (fun configKey formParams indexToName bodyIndex urlIndex =>
      { configKey, template, formParams, indexToName, bodyIndex, bodyType, urlIndex, returnType })
    <$> required fields "config_key" text
    <*> withDefault fields "form_params" [] texts
    <*> withDefault fields "index_to_name" .empty (mapping integer texts)
    <*> withDefault fields "body_index" none (optional integer)
    <*> withDefault fields "url_index" none (optional integer)

end HttpInterface
