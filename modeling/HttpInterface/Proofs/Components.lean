import HttpInterface.Proofs.Compile.Draft
import HttpInterface.Proofs.Delimiters
import HttpInterface.Proofs.Origin
import HttpInterface.Proofs.Placeholder.Decoded
import HttpInterface.Proofs.Url.Path
import Mathlib.Data.List.Forall2

/-!
# `HttpInterface.Proofs.Components`: the components of the path of a request

An argument brings no slash into a url, so the components of the target are those of the base and
those of the template, each filled (`path_target`). But it may fill a component with `.` or `..`,
which quoting keeps, and dot components are resolved when the URL is brought to its normal form.

`components_of_request` says that this is the only way for an argument to change the components:
the path of a request has those of the base and one for each of the template exactly if none of
the latter is filled to be made of dots. Each of them is then unquoted to what the component means,
with the texts of the arguments for the placeholders, unless it is not `Separable`.
-/

set_option autoImplicit false

namespace HttpInterface

/-- The components of the url, without the empty one in front of the first slash. -/
def Template.components (t : Template) : List (List Char) :=
  (Text.splitOn '/' t.url.toList).tail

/-- What fills a component of the url: the quoted texts of the arguments. -/
def Arguments.fillComponent (args : Arguments) (component : List Char) : List Char :=
  Placeholder.filled (fun name => Template.quotedValue (args.value name)) component

/-- What a component of the url means: it is unquoted, and the texts of the arguments stand for the
placeholders. -/
def Arguments.meantBy (args : Arguments) (component : List Char) : String :=
  Placeholder.decoded (fun name => (args.value name).requestText) component

namespace ExpandedRequest

variable {r : ExpandedRequest} {base : Value}

/-- A target with a url that begins with a slash has the authority of its base. -/
theorem anchored_target {s a rest : List Char} (h : Url.Anchored s a rest base.display.toList)
    (hnull : base.isNull = false) (hslash : r.url.toList.head? = some '/') :
    Url.Anchored s a (Url.trimmed rest ++ (r.url.toList ++ r.queryPart))
      (r.target base).toList := by
  rw [toList_target hnull]
  refine h.trimmed.append fun _ c hc => ?_
  rw [List.head?_append, hslash] at hc
  obtain rfl := Option.some.inj hc
  rfl

section

variable {s a rest : List Char} (h : Url.Anchored s a rest base.display.toList)
  (hnull : base.isNull = false) (hrest : '?' ∉ rest ∧ '#' ∉ rest)
  (hurl : '?' ∉ r.url.toList ∧ '#' ∉ r.url.toList) (hslash : r.url.toList.head? = some '/')
include h hnull hrest hurl hslash

/-- Behind the authority of a target there is the path of its base without the slashes at the end,
the url and the query. -/
theorem split_target_of_path :
    Url.split (r.target base).toList =
      ⟨s, a, Url.trimmed rest ++ r.url.toList,
        if r.queryString.isEmpty then none else some (Text.cut '#' r.queryString.toList).1,
        if r.queryString.isEmpty then none else (Text.cut '#' r.queryString.toList).2⟩ := by
  have hfront : Url.trimmed rest <+: rest := List.rdropWhile_prefix _ _
  have hmark : '?' ∉ Url.trimmed rest ++ r.url.toList := by
    rw [List.mem_append, not_or]
    exact ⟨fun hmem => hrest.1 (hfront.subset hmem), hurl.1⟩
  have hhash : '#' ∉ Url.trimmed rest ++ r.url.toList := by
    rw [List.mem_append, not_or]
    exact ⟨fun hmem => hrest.2 (hfront.subset hmem), hurl.2⟩
  rw [(anchored_target h hnull hslash).split_eq, ← List.append_assoc, queryPart]
  split
  · rw [List.append_nil, Url.behind_path hmark hhash]
  · rw [Url.behind_query hmark hhash]

/-- The path of a target is the path of its base without the slashes at the end, and the url. -/
theorem path_target :
    (Url.split (r.target base).toList).path = Url.trimmed rest ++ r.url.toList := by
  rw [split_target_of_path h hnull hrest hurl hslash]

end

end ExpandedRequest

namespace Template

variable {t : Template}

/-- The components of the url of a request are the filled components of the template. -/
theorem splitOn_url_filledRequest (h : t.url.toList.head? = some '/') (args : Arguments) :
    ∃ url, (t.filledRequest args).url.toList = '/' :: url ∧
      Text.splitOn '/' url = t.components.map args.fillComponent := by
  obtain ⟨rest, hrest⟩ := List.head?_eq_some_iff.1 h
  have hcomponents : t.components = Text.splitOn '/' rest := by
    rw [components, hrest, Text.splitOn, if_pos rfl, List.tail_cons]
  refine ⟨args.fillComponent rest, ?_, ?_⟩
  · rw [toList_url, hrest]
    exact Placeholder.filled_append (by decide) _ [] rest
  · rw [hcomponents]
    exact Placeholder.splitOn_filled (by decide) fun _ => not_mem_quotedValue (by decide) _

end Template

namespace CompiledMethod

/-- The path of a request is the path of its base, without the slashes at the end, and the filled
url, in normal form. -/
theorem path_of_request {m : CompiledMethod} {args : List Value} {options : CallOptions}
    {expanded : ExpandedRequest} {base : Value} {b : Url} {w : WireRequest}
    (hprepare : m.prepare args options = .ok (expanded, base))
    (hrequest : m.request args options = .ok w) (hbase : b.IsPlain base.display)
    (hslash : m.template.url.toList.head? = some '/')
    (hurl : '?' ∉ m.template.url.toList ∧ '#' ∉ m.template.url.toList) :
    ∃ (named : Arguments) (front url : List Char), m.argumentsByName args = .ok named ∧
      Url.trimmed b.path.toList = Url.escape Url.unsafeInPath front ∧
      (∀ c ∈ Text.splitOn '/' front, Url.isDots c = false) ∧
      Text.splitOn '/' url = m.template.components.map named.fillComponent ∧
      w.url.path.toList = Url.escape Url.unsafeInPath (Url.resolveDots (front ++ '/' :: url)) := by
  obtain ⟨named, hnamed, hexpand, hbaseUrl⟩ := prepare_eq_ok.1 hprepare
  have hparse := parse_target hprepare hrequest
  obtain ⟨s, a, rest, hanchored, hmark, hhash, hdots, hpath⟩ := hbase.exists_rest
  -- Filling the url brings in no character that ends a path.
  obtain ⟨url, hfilled, hcomponents⟩ := Template.splitOn_url_filledRequest hslash named
  have heq := (Template.expand_eq_ok hexpand).2.1
  have hkept : '?' ∉ expanded.url.toList ∧ '#' ∉ expanded.url.toList := by
    rw [heq]
    exact ⟨fun h => hurl.1 (Template.mem_of_mem_filled (by decide) h),
      fun h => hurl.2 (Template.mem_of_mem_filled (by decide) h)⟩
  rw [← heq] at hfilled
  have hnull := isNull_of_baseUrl hbaseUrl
  have htarget := ExpandedRequest.path_target hanchored hnull ⟨hmark, hhash⟩ hkept
    (by rw [hfilled]; rfl)
  have hscheme := (ExpandedRequest.split_target (r := expanded) hanchored hnull).1
  refine ⟨named, Url.trimmed rest, url, hnamed, ?_, ?_, hcomponents, ?_⟩
  · rw [hpath, Url.trimmed_escape (by decide)]
  · exact fun c hc => hdots c (Url.mem_splitOn_of_mem_trimmed hc)
  · rw [(Url.isOf_of_parse hparse).path (hscheme ▸ hanchored.scheme_ne), String.toList_ofList,
      htarget, hfilled]

end CompiledMethod

namespace Declaration

/-- The url of a compiled method is a path, and its queries are entries. -/
theorem delimited_of_compile {d : Declaration} {settings : Settings} {r : NameResolver}
    {m : CompiledMethod} (hm : (d.compile settings r).result = .ok m) : m.template.Delimited := by
  obtain ⟨draft, hdraft, -, -, rfl⟩ := compile_eq_ok.1 hm
  obtain ⟨line, -, -, hset⟩ := draft_eq_ok hdraft
  obtain ⟨-, hurl, hqueries⟩ := target_draft hset
  refine ⟨?_, fun e he => ?_⟩
  · show '?' ∉ draft.url.toList
    rw [hurl]
    exact PathAndQuery.not_mem_path_parse line.target
  · replace he : e ∈ draft.queries.pairs := he
    rw [hqueries] at he
    have hmem := (OrderedMap.mem_pairs_pushAll.1 he).resolve_left List.not_mem_nil
    exact PathAndQuery.delimited_of_mem_parse hmem

/-- The path of a request has the components of the base, without the slashes at its end, and one
for each component of the url, exactly if no component is filled to be made of dots. Each of them
is unquoted to what the component means, if that is separable. -/
theorem components_of_request (d : Declaration) (settings : Settings) (r : NameResolver)
    (m : CompiledMethod) (hm : (d.compile settings r).result = .ok m) (args : List Value)
    (options : CallOptions) (expanded : ExpandedRequest) (base : Value) (b : Url) (w : WireRequest)
    (hprepare : m.prepare args options = .ok (expanded, base))
    (hrequest : m.request args options = .ok w) (hbase : b.IsPlain base.display)
    (hslash : m.template.url.toList.head? = some '/') (hhash : '#' ∉ m.template.url.toList) :
    ∃ named : Arguments, m.argumentsByName args = .ok named ∧
      ((∃ components, Text.splitOn '/' w.url.path.toList =
            Text.splitOn '/' (Url.trimmed b.path.toList) ++ components ∧
          List.Forall₂ (fun part component => Placeholder.Separable part →
              Percent.unquote (String.ofList component) = named.meantBy part)
            m.template.components components) ↔
        ∀ part ∈ m.template.components, Url.isDots (named.fillComponent part) = false) := by
  obtain ⟨named, front, url, hnamed, hfront, hplain, hurl, hpath⟩ :=
    CompiledMethod.path_of_request hprepare hrequest hbase hslash
      ⟨(delimited_of_compile hm).url, hhash⟩
  refine ⟨named, hnamed, ?_⟩
  rw [hfront, hpath, Url.splitOn_escape front]
  constructor
  · rintro ⟨components, heq, hall⟩ part hpart
    -- A component that is made of dots would take one away, so there would be too few.
    refine Bool.eq_false_iff.2 fun hpartdots => ?_
    have hmem : named.fillComponent part ∈ Text.splitOn '/' url := by
      rw [hurl]
      exact List.mem_map_of_mem hpart
    have hlt := Url.length_splitOn_escape_resolveDots_lt front hmem hpartdots
    rw [heq, hurl, List.length_append, List.length_map, List.length_map, hall.length_eq] at hlt
    exact absurd hlt (Nat.lt_irrefl _)
  · intro hnone
    refine ⟨(Text.splitOn '/' url).map (Url.escape Url.unsafeInPath), ?_, ?_⟩
    · refine Url.splitOn_escape_resolveDots hplain fun c hc => ?_
      rw [hurl] at hc
      obtain ⟨part, hpart, rfl⟩ := List.mem_map.1 hc
      exact hnone part hpart
    · rw [hurl, List.map_map, List.forall₂_map_right_iff]
      refine List.forall₂_same.2 fun part _ hseparable => ?_
      rw [Function.comp_apply, Url.unquote_escape Url.transparent_unsafeInPath]
      exact Placeholder.unquote_filled hseparable _

/-- The slash of an argument stays within its component. -/
theorem components_sample :
    (sample.compile {} (.standard true)).result = .ok sampleMethod ∧
      sampleMethod.prepare sampleCall {} = .ok (sampleExpanded, .text "http://host") ∧
      sampleMethod.request sampleCall {} = .ok sampleSent ∧
      (∀ part ∈ sampleMethod.template.components, Placeholder.Separable part) ∧
      ∃ named : Arguments, sampleMethod.argumentsByName sampleCall = .ok named ∧
        named.meantBy "{shop}".toList = "a/b" ∧
        ∃ components, Text.splitOn '/' sampleSent.url.path.toList = [] :: components ∧
          List.Forall₂ (fun part component => Placeholder.Separable part →
              Percent.unquote (String.ofList component) = named.meantBy part)
            sampleMethod.template.components components := by
  have hbase : Url.IsPlain _ "http://host" := ⟨rfl, rfl, rfl, rfl, by decide⟩
  obtain ⟨named, hnamed, hkept⟩ := components_of_request sample {} _ sampleMethod compile_sample
    sampleCall {} sampleExpanded (.text "http://host") _ sampleSent prepare_sample request_sample
    hbase rfl (by decide)
  have hnamed' : sampleMethod.argumentsByName sampleCall = .ok ⟨[("shop", .text "a/b"),
    ("tag", .list [.int 1, .int 2]), ("item", .text "tea")], by decide⟩ := rfl
  obtain rfl := Except.ok.inj (hnamed'.symm.trans hnamed)
  have hplain : ∀ part ∈ sampleMethod.template.components, '%' ∉ part := by decide
  refine ⟨compile_sample, prepare_sample, request_sample, fun part hpart => ?_, _, hnamed, rfl, ?_⟩
  · exact Placeholder.separable_of_not_mem (hplain part hpart)
  · exact hkept.2 (by decide +kernel)

/-- A declaration with a name between two components. -/
def files : Declaration where
  declaringType := "Files"
  methodName := "meta"
  requestLine := some "GET /files/{name}/meta"
  parameters := [{ index := 0, name := "name", primaryName := some "name" }]

/-- The argument takes a component away. -/
theorem components_of_files :
    ∃ m w b, (files.compile {} (.standard true)).result = .ok m ∧
      m.template.components = ["files".toList, "{name}".toList, "meta".toList] ∧
      m.request [.text ".."] { baseUrl := .text "https://h.test/api" } = .ok w ∧
      Url.parse "https://h.test/api" = .ok b ∧ b.path = "/api" ∧ w.url.path = "/api/meta" ∧
      ¬∃ components, components.length = m.template.components.length ∧
        Text.splitOn '/' w.url.path.toList =
          Text.splitOn '/' (Url.trimmed b.path.toList) ++ components := by
  refine ⟨_, _, _, rfl, rfl, rfl, rfl, rfl, rfl, ?_⟩
  show ¬∃ components, components.length = 3 ∧
    Text.splitOn '/' "/api/meta".toList = Text.splitOn '/' (Url.trimmed "/api".toList) ++ components
  rintro ⟨components, hlength, heq⟩
  have h := congrArg List.length heq
  rw [List.length_append, hlength] at h
  exact absurd h (by decide)

end Declaration

end HttpInterface
