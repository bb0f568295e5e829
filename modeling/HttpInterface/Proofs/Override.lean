import HttpInterface.Proofs.Components
import HttpInterface.Proofs.Url.Escape

/-!
# `HttpInterface.Proofs.Override`: the path and the query of a base

The target of a request is put together as a text: the base without the slashes at its end, the
url, and the query behind a `?`. Only then it is taken apart as a URL. `placed_of_request` says
where the parts have gone (`Placed`), for a base that says where it leads on its own and a url that
begins with a slash.

Behind a base without a query all is well: the url goes on with the path of the base, and the
query of the request is its own, entry by entry. A `#` that the template has in its query
ends the query, since there the fragment begins. Behind a base with a query the url is not part of
the path: url and query are both put at the end of the query of the base, which then ends in an
entry of neither (`query_of_mirror`).
-/

set_option autoImplicit false

namespace HttpInterface

/-- Where the parts of a request have gone in the URL `u`, behind the base `b`. -/
structure ExpandedRequest.Placed (r : ExpandedRequest) (b u : Url) : Prop where
  /-- Behind a base without a query the path of the base goes on with the url. -/
  path : b.query = none →
    u.path.toList = Url.trimmed b.path.toList ++ Url.escape Url.unsafeInPath r.url.toList
  /-- The query is the one of the request, up to a `#`. -/
  query : b.query = none →
    u.query = if r.queryString.isEmpty then none
      else some (String.ofList (Url.escape Url.unsafeInQuery (Text.cut '#' r.queryString.toList).1))
  /-- It holds the entries of the request in their order. A flag with the empty key leaves no
  trace. -/
  entries : b.query = none → '#' ∉ r.queryString.toList →
    (u.query.elim [] fun query => PathAndQuery.readEntries query.toList) =
      (r.queryEntries.filter (· ≠ ("", none))).map QueryEntry.escaped
  /-- Behind a base with a query the path is the one of the base, and the url and the query of the
  request stand at the end of the query of the base. -/
  spilled : ∀ query, b.query = some query → u.path = b.path ∧
    u.query = some (String.ofList (Url.trimmed query.toList ++
      Url.escape Url.unsafeInQuery (r.url.toList ++ (Text.cut '#' r.queryPart).1)))

namespace Url

/-- A URL without a fragment holds no `#` behind its authority. -/
theorem Anchored.not_mem_of_fragment {s a rest : List Char} {text : String} {u : Url}
    (h : Anchored s a rest text.toList) (hparse : parse text = .ok u)
    (hfragment : u.fragment = none) : '#' ∉ rest := by
  have hof := (isOf_of_parse hparse).fragment
  rw [h.split_eq, hfragment] at hof
  have hnone : (Text.cut '#' rest).2 = none := Option.map_eq_none_iff.1 hof.symm
  rcases Text.cut_cases '#' rest with ⟨hmem, -⟩ | ⟨front, behind, -, -, hcut⟩
  · exact hmem
  · rw [hcut] at hnone
    exact nomatch hnone

/-- Where the path goes on without dot components it has none itself. -/
theorem resolveDots_eq_of_append {path url : List Char}
    (h : ∀ c ∈ Text.splitOn '/' (trimmed path ++ '/' :: url), isDots c = false) :
    resolveDots path = path := by
  refine resolveDots_eq fun c hc => ?_
  rcases mem_splitOn_trimmed hc with hc | rfl
  · refine h c ?_
    rw [Text.splitOn_append_cons]
    exact List.mem_append_left _ hc
  · rfl

end Url

namespace ExpandedRequest

variable {r : ExpandedRequest} {base : Value} {b u : Url} {s a : List Char}

/-- The entries of a query are read back from its escaped text. -/
theorem readEntries_escape_queryString (h : ∀ e ∈ r.queryEntries, QueryEntry.Delimited e) :
    PathAndQuery.readEntries (Url.escape Url.unsafeInQuery r.queryString.toList) =
      (r.queryEntries.filter (· ≠ ("", none))).map QueryEntry.escaped := by
  rw [Url.readEntries_escape, queryString, PathAndQuery.readEntries_join h]

section

variable (hbase : Url.parse base.display = .ok b) (hnull : base.isNull = false)
  (htarget : Url.parse (r.target base) = .ok u) (hslash : r.url.toList.head? = some '/')
include hbase hnull htarget hslash

/-- Behind a base without a query. -/
theorem placed_of_path {rest : List Char} (h : Url.Anchored s a rest base.display.toList)
    (hrest : '?' ∉ rest ∧ '#' ∉ rest) (hurl : '?' ∉ r.url.toList ∧ '#' ∉ r.url.toList)
    (hdelimited : ∀ e ∈ r.queryEntries, QueryEntry.Delimited e)
    (hdots : ∀ c ∈ Text.splitOn '/' (Url.split (r.target base).toList).path,
      Url.isDots c = false) : r.Placed b u := by
  have hof := Url.isOf_of_parse htarget
  rw [split_target_of_path h hnull hrest hurl hslash] at hof hdots
  have hbaseOf := Url.isOf_of_parse hbase
  rw [h.split_eq, Url.behind_path hrest.1 hrest.2] at hbaseOf
  have hnone : b.query = none := hbaseOf.query
  have hquery : u.query = if r.queryString.isEmpty then none
      else some (String.ofList
        (Url.escape Url.unsafeInQuery (Text.cut '#' r.queryString.toList).1)) := by
    rw [hof.query]
    split <;> rfl
  refine ⟨fun _ => ?_, fun _ => hquery, fun _ hhash => ?_, fun query hsome => ?_⟩
  · -- Where the joined path has no dot components, the path of the base has none to resolve.
    obtain ⟨url, hcons⟩ := List.head?_eq_some_iff.1 hslash
    have hjoined : ∀ c ∈ Text.splitOn '/' (Url.trimmed rest ++ '/' :: url),
        Url.isDots c = false := hcons ▸ hdots
    have hpath : Url.resolveDots rest = rest := Url.resolveDots_eq_of_append hjoined
    rw [hof.path h.scheme_ne, hbaseOf.path h.scheme_ne, hpath, Url.resolveDots_eq hdots,
      String.toList_ofList, String.toList_ofList, Url.trimmed_escape (by decide), Url.escape,
      Url.escape, Url.escape, List.flatMap_append]
  · rw [hquery, Text.cut_of_not_mem hhash, ← readEntries_escape_queryString hdelimited]
    split
    · next hempty =>
      rw [String.isEmpty_iff.1 hempty]
      rfl
    · rw [Option.elim_some, String.toList_ofList]
  · cases hnone.symm.trans hsome

/-- Behind a base with a query. -/
theorem placed_of_query {path query : List Char}
    (h : Url.Anchored s a (path ++ '?' :: query) base.display.toList)
    (hmark : '?' ∉ path) (hhash : '#' ∉ path ∧ '#' ∉ query) (hurl : '#' ∉ r.url.toList) :
    r.Placed b u := by
  have hof := Url.isOf_of_parse htarget
  have hbaseOf := Url.isOf_of_parse hbase
  rw [h.split_eq, Url.behind_query hmark hhash.1, Text.cut_of_not_mem hhash.2] at hbaseOf
  -- Slashes at the end of the base are those of its query.
  have hfront : Url.trimmed query <+: query := List.rdropWhile_prefix _ _
  have htrimmed : '#' ∉ Url.trimmed query := fun hmem => hhash.2 (hfront.subset hmem)
  rw [(anchored_target h hnull hslash).split_eq, Url.trimmed_query, List.append_assoc,
    List.cons_append, Url.behind_query hmark hhash.1, Text.cut_append_of_not_mem htrimmed,
    Text.cut_append_of_not_mem hurl] at hof
  have hsome : b.query = some (String.ofList (Url.escape Url.unsafeInQuery query)) := hbaseOf.query
  refine ⟨fun hnone => ?_, fun hnone => ?_, fun hnone => ?_, fun query' hquery => ?_⟩
  · exact nomatch hsome.symm.trans hnone
  · exact nomatch hsome.symm.trans hnone
  · exact nomatch hsome.symm.trans hnone
  · obtain rfl := Option.some.inj (hsome.symm.trans hquery)
    refine ⟨(hof.path h.scheme_ne).trans (hbaseOf.path h.scheme_ne).symm, ?_⟩
    rw [hof.query, String.toList_ofList, Url.trimmed_escape (by decide)]
    simp only [Option.map_some, Url.escape, List.flatMap_append]

end

end ExpandedRequest

namespace Declaration

/-- Behind a base without a query the path of the base goes on with the url of the request, and the
query is the one of the request. Behind a base with a query both are put at its end. -/
theorem placed_of_request (d : Declaration) (settings : Settings) (r : NameResolver)
    (m : CompiledMethod) (hm : (d.compile settings r).result = .ok m) (args : List Value)
    (options : CallOptions) (expanded : ExpandedRequest) (base : Value) (b : Url) (w : WireRequest)
    (hprepare : m.prepare args options = .ok (expanded, base))
    (hrequest : m.request args options = .ok w) (hbase : Url.parse base.display = .ok b)
    (habsolute : b.isAbsolute = true) (hfragment : b.fragment = none)
    (hslash : m.template.url.toList.head? = some '/') (hhash : '#' ∉ m.template.url.toList)
    (hdots : ∀ c ∈ Text.splitOn '/' (Url.split (expanded.target base).toList).path,
      Url.isDots c = false) :
    expanded.Placed b w.url := by
  obtain ⟨named, -, hexpand, hbaseUrl⟩ := CompiledMethod.prepare_eq_ok.1 hprepare
  have hnull := CompiledMethod.isNull_of_baseUrl hbaseUrl
  have htarget := CompiledMethod.parse_target hprepare hrequest
  have hdelimited := delimited_of_compile hm
  -- Filling the url brings in no character that ends a path.
  obtain ⟨-, hfilled, hqueries⟩ := Template.expand_eq_ok hexpand
  have hurl : '?' ∉ expanded.url.toList ∧ '#' ∉ expanded.url.toList := by
    rw [hfilled]
    exact ⟨fun h => hdelimited.url (Template.mem_of_mem_filled (by decide) h),
      fun h => hhash (Template.mem_of_mem_filled (by decide) h)⟩
  have hhead : expanded.url.toList.head? = some '/' := by
    obtain ⟨url, hcons, -⟩ := Template.splitOn_url_filledRequest hslash named
    rw [hfilled, hcons]
    rfl
  obtain ⟨s, a, rest, hanchored⟩ := Url.anchored_of_isAbsolute hbase habsolute
  have hrest := hanchored.not_mem_of_fragment hbase hfragment
  rcases Text.cut_cases '?' rest with ⟨hmark, -⟩ | ⟨path, query, rfl, hmark, -⟩
  · exact ExpandedRequest.placed_of_path hbase hnull htarget hhead hanchored ⟨hmark, hrest⟩ hurl
      (Template.delimited_queryEntries hdelimited hqueries) hdots
  · rw [List.mem_append, List.mem_cons, not_or, not_or] at hrest
    exact ExpandedRequest.placed_of_query hbase hnull htarget hhead hanchored hmark
      ⟨hrest.1, hrest.2.2⟩ hurl.2

/-- A declaration with an argument for the base and a query of its own. -/
def mirror : Declaration where
  declaringType := "Mirror"
  methodName := "fetch"
  requestLine := some "GET /items?page={page}"
  parameters := [{ index := 0, name := "target", isUrl := true },
    { index := 1, name := "page", primaryName := some "page" }]

def mirrorMethod : CompiledMethod where
  configKey := mirror.configKey
  template :=
    { method := "GET"
      url := "/items"
      queries := ⟨[("page", [some "{page}"])], by decide⟩ }
  indexToName := ⟨[(1, ["page"])], by decide⟩
  urlIndex := some 0

/-- Its base ends in slashes. -/
def mirrorCall : List Value :=
  [.text "https://h.test/api//", .int 2]

def mirrorExpanded : ExpandedRequest where
  method := "GET"
  url := "/items"
  queries := ⟨[("page", [some "2"])], by decide⟩

def mirrorSent : WireRequest where
  method := "GET"
  url :=
    { scheme := "https", userinfo := "", host := "h.test", port := none
      path := "/api/items", query := some "page=2", fragment := none }
  headers := [("Host", "h.test")]
  content := []

theorem placed_mirror :
    (mirror.compile {} (.standard true)).result = .ok mirrorMethod ∧
      mirrorMethod.prepare mirrorCall {} = .ok (mirrorExpanded, .text "https://h.test/api//") ∧
      mirrorMethod.request mirrorCall {} = .ok mirrorSent ∧
      ∃ b, Url.parse "https://h.test/api//" = .ok b ∧ mirrorExpanded.Placed b mirrorSent.url := by
  have hcompile : (mirror.compile {} (.standard true)).result = .ok mirrorMethod := rfl
  have hprepare : mirrorMethod.prepare mirrorCall {} =
      .ok (mirrorExpanded, .text "https://h.test/api//") := rfl
  have hrequest : mirrorMethod.request mirrorCall {} = .ok mirrorSent := rfl
  refine ⟨hcompile, hprepare, hrequest, _, rfl, ?_⟩
  exact placed_of_request mirror {} _ mirrorMethod hcompile mirrorCall {} mirrorExpanded
    (.text "https://h.test/api//") _ mirrorSent hprepare hrequest rfl rfl rfl rfl (by decide)
    (by decide)

/-- The url is put into the query of the base. -/
theorem query_of_mirror :
    ∃ w b, (mirror.compile {} (.standard true)).result = .ok mirrorMethod ∧
      Url.parse "https://h.test/api?key=1" = .ok b ∧ b.path = "/api" ∧ b.query = some "key=1" ∧
      mirrorMethod.request [.url b, .int 2] {} = .ok w ∧ w.url.path = "/api" ∧
      w.url.query = some "key=1/items?page=2" ∧
      PathAndQuery.readEntries "key=1/items?page=2".toList = [("key", some "1/items?page=2")] := by
  exact ⟨_, _, rfl, rfl, rfl, rfl, rfl, rfl, rfl, rfl⟩

end Declaration

end HttpInterface
