import HttpInterface.Proofs.Compile.Method
import HttpInterface.Proofs.RequestLine

/-!
# `HttpInterface.Proofs.Compile.LineNames`: the placeholders of a request line

A request line is cut at blanks, in front of a version, at the first `?`, at every `&` and at the
first `=` of an entry, and its verb and its version are left out. A placeholder is one word without
any of these characters, so none lies across a cut; and a cut makes none, since the braces of a
placeholder are its own characters. Neither a verb nor a version holds an opening brace.

So the target has the placeholders of the line, each in its place (`occurrences_of_parse?`), and so
have the path and the entries that the target is taken apart into
(`PathAndQuery.occurrences_parse`). Only the order is lost, where the entries of one key are put
together.

`names_of_line` is the main result. It says too what follows for a declaration: a placeholder
anywhere in its request line has to be the name of a parameter, and it makes that name no form
parameter.
-/

set_option autoImplicit false

namespace HttpInterface

/-- A blank is no character of a placeholder. -/
theorem Placeholder.isPlain_of_isBlank {c : Char} (h : Text.isBlank c = true) :
    isPlain c = true := by
  refine Decidable.byContradiction fun hplain => ?_
  -- Braces and characters of names are all visible ASCII, and no blank is.
  have hrange : 0x21 ≤ c.toNat ∧ c.toNat ≤ 0x7E := by
    simp only [isPlain, Bool.and_eq_true, bne_iff_ne, Bool.not_eq_true', not_and_or, not_not,
      Bool.not_eq_false] at hplain
    rcases hplain with (rfl | rfl) | hname
    · decide
    · decide
    · exact toNat_of_isNameChar hname
  have hblank : Text.isBlank c = false :=
    Text.isBlank_eq_false_of_range 0x21 0x7E (by decide) hrange.1 hrange.2
  exact Bool.false_ne_true (hblank.symm.trans h)

namespace RequestLine

open Placeholder (slots)

/-! ### What holds no opening brace -/

theorem not_mem_of_blanks {w : List Char} (h : Text.Blanks w) : '{' ∉ w :=
  fun hmem => absurd (h '{' hmem) (by decide)

theorem Verb.not_mem {verb : List Char} (h : Verb verb) : '{' ∉ verb :=
  fun hmem => absurd (h.2 '{' hmem) (by decide)

theorem Digits.not_mem {ds : List Char} (h : Digits ds) : '{' ∉ ds :=
  fun hmem => absurd (h.2 '{' hmem) (by decide)

theorem Version.not_mem {v : List Char} (h : Version v) : '{' ∉ v := by
  cases h with
  | whole hds => simp [hds.not_mem]
  | point hds hfs => simp [hds.not_mem, hfs.not_mem]

/-- What is left out behind a target begins with a blank. -/
theorem LeftOut.cases_blank {tail : List Char} (h : LeftOut tail) :
    tail = [] ∨ ∃ c rest, tail = c :: rest ∧ Text.isBlank c = true ∧ '{' ∉ rest := by
  cases h with
  | blanks hw =>
    cases tail with
    | nil => exact Or.inl rfl
    | cons c rest =>
      have hrest : '{' ∉ rest := fun hmem =>
        not_mem_of_blanks hw (List.mem_cons_of_mem c hmem)
      exact Or.inr ⟨c, rest, rfl, hw c List.mem_cons_self, hrest⟩
  | @version w v w' hw hne hv hw' =>
    obtain ⟨c, w, rfl⟩ := List.exists_cons_of_ne_nil hne
    refine Or.inr ⟨c, w ++ v ++ w', rfl, hw c List.mem_cons_self, ?_⟩
    have hfront : '{' ∉ w := fun hmem => not_mem_of_blanks hw (List.mem_cons_of_mem c hmem)
    simp [hfront, hv.not_mem, not_mem_of_blanks hw']

/-! ### The target -/

/-- The target has the placeholders of the line, in their order and as often. -/
theorem occurrences_of_parse? {line : String} {r : RequestLine} (h : parse? line = some r) :
    Placeholder.occurrences r.target = Placeholder.occurrences line := by
  have hholds := holds_of_parse? h
  obtain ⟨w₀, w₁, tail, hw₀, hw₁, -, htail, hline⟩ := hholds.parts
  have hfront : '{' ∉ w₀ ++ r.verb.toList ++ w₁ := by
    simp [not_mem_of_blanks hw₀, hholds.verb.not_mem, not_mem_of_blanks hw₁]
  -- What is left out begins with a blank, where no placeholder goes on, and has no brace behind it.
  have hbehind : slots (r.target.toList ++ tail) = slots r.target.toList := by
    rcases htail.cases_blank with rfl | ⟨c, rest, rfl, hc, hrest⟩
    · rw [List.append_nil]
    · rw [Placeholder.slots_append (Placeholder.isPlain_of_isBlank hc),
        Placeholder.slots_of_not_mem hrest, List.append_nil]
  rw [Placeholder.occurrences_eq, Placeholder.occurrences_eq, hline, List.append_assoc,
    Placeholder.slots_append_of_not_mem hfront, hbehind]

end RequestLine

/-! ### The template -/

namespace Template

/-- The texts of the url, the query keys and the query values. -/
def targetTexts (t : Template) : List String :=
  t.url :: t.queries.entries.flatMap fun e => e.1 :: e.2.filterMap id

/-- A template without headers holds placeholders in the texts of its target alone. -/
theorem httpTexts_of_no_headers {t : Template} (h : t.headers = .empty) :
    t.httpTexts = t.targetTexts := by
  rw [httpTexts, h]
  exact List.append_nil _

end Template

/-- The texts of a path and of the entries of a query have the placeholders of the text that they
were read of. -/
theorem PathAndQuery.mem_occurrences_iff {text name : String} :
    name ∈ Placeholder.occurrences text ↔
      ∃ part, (part = (parse text).path ∨
          ∃ e ∈ (parse text).entries, part = e.1 ∨ e.2 = some part) ∧
        name ∈ Placeholder.occurrences part := by
  rw [← occurrences_parse text, List.mem_append, List.mem_flatMap]
  constructor
  · rintro (hname | ⟨e, he, hname⟩)
    · exact ⟨_, Or.inl rfl, hname⟩
    · obtain ⟨part, hpart, hname⟩ := List.mem_flatMap.1 hname
      rw [List.mem_cons, Option.mem_toList] at hpart
      exact ⟨part, Or.inr ⟨e, he, hpart⟩, hname⟩
  · rintro ⟨part, rfl | ⟨e, he, hpart⟩, hname⟩
    · exact Or.inl hname
    · refine Or.inr ⟨e, he, List.mem_flatMap.2 ⟨part, ?_, hname⟩⟩
      rwa [List.mem_cons, Option.mem_toList]

/-- A target that is appended to a fresh draft leaves its placeholders there. -/
theorem Draft.mem_namesIn_append (charset text name : String) :
    name ∈ Placeholder.namesIn (({ charset : Draft }).append text).template.targetTexts ↔
      name ∈ Placeholder.occurrences text := by
  have hqueries : ∀ e, e ∈ (OrderedMap.empty.pushAll (PathAndQuery.parse text).entries).pairs ↔
      e ∈ (PathAndQuery.parse text).entries := fun _ =>
    OrderedMap.mem_pairs_pushAll.trans (or_iff_right List.not_mem_nil)
  rw [Draft.append_eq, ← Template.httpTexts_of_no_headers rfl, Placeholder.mem_namesIn,
    PathAndQuery.mem_occurrences_iff]
  refine exists_congr fun part => and_congr_left fun _ => ?_
  rw [Template.mem_httpTexts (OrderedMap.noneEmpty_pushAll OrderedMap.noneEmpty_empty _)]
  have hheaders : ¬∃ e ∈ (OrderedMap.empty : OrderedMap String (List String)).pairs, e.2 = part :=
    fun ⟨_, he, _⟩ => absurd he List.not_mem_nil
  simp only [Draft.template, hqueries, String.empty_append, hheaders, or_false]

namespace Declaration

variable {d : Declaration} {line : String} {settings : Settings} {resolver : NameResolver}
  {m : CompiledMethod}

/-- The placeholders of a request line are among those of the compiled method. -/
theorem mem_httpPlaceholders_of_line (hline : d.requestLine = some line)
    (hm : (d.compile settings resolver).result = .ok m) {name : String}
    (hname : name ∈ Placeholder.names line) : name ∈ m.template.httpPlaceholders := by
  obtain ⟨draft, hdraft, -, -, rfl⟩ := compile_eq_ok.1 hm
  obtain ⟨r, hr, -, hset⟩ := draft_eq_ok hdraft
  have hparse : RequestLine.parse? line = some r := by
    rwa [line?, hline] at hr
  rw [Placeholder.mem_names, ← RequestLine.occurrences_of_parse? hparse,
    PathAndQuery.mem_occurrences_iff] at hname
  obtain ⟨part, hpart, hname⟩ := hname
  refine (mem_httpPlaceholders_draft hset).2 ⟨part, ?_, hname⟩
  rw [httpSites, List.mem_append, List.mem_cons, List.mem_flatMap]
  refine Or.inl (hpart.imp_right ?_)
  rintro ⟨e, he, hpart⟩
  refine ⟨e, he, ?_⟩
  rwa [List.mem_cons, Option.mem_toList]

/-- A placeholder of the request line of a method is bound, and is no form parameter. -/
theorem bound_of_line (hline : d.requestLine = some line)
    (hm : (d.compile settings resolver).result = .ok m) {name : String}
    (hname : name ∈ Placeholder.names line) :
    name ∈ m.indexToName.values.flatten ∧ name ∉ m.formParams := by
  have hhttp := mem_httpPlaceholders_of_line hline hm hname
  obtain ⟨draft, -, -, hcheck, rfl⟩ := compile_eq_ok.1 hm
  constructor
  · exact (checkBindings_eq_ok.1 hcheck).1 name (Template.mem_placeholders.2 (Or.inl hhttp))
  · intro hform
    have hno := (List.mem_filter.1 (List.mem_eraseDups.1 hform)).2
    rw [Bool.not_eq_true', List.contains_eq_mem, decide_eq_false_iff_not] at hno
    exact hno hhttp

end Declaration

/-- Taking a request line apart neither hides nor makes placeholders: the names in the line are
those in the url, the query keys and the query values that its target leaves in a fresh builder.

So a name in the line that no parameter has stops the compilation, and in a compiled method
every name in the line is bound and none is a form parameter. -/
theorem names_of_line (line : String) :
    (∀ r, RequestLine.parse? line = some r →
      ∀ charset : String, ∃ b, (Builder.start charset).change (.append r.target) = .ok b ∧
        ∀ name, name ∈ Placeholder.names line ↔
          name ∈ Placeholder.namesIn b.snapshot.targetTexts) ∧
    ∀ (d : Declaration) (settings : Settings) (resolver : NameResolver),
      d.requestLine = some line → ∀ name ∈ Placeholder.names line,
        ((∀ p ∈ d.parameters, p.isUrl = false → resolver.resolve p ≠ some name) →
          ∃ e, (d.compile settings resolver).result = .error e) ∧
        ∀ m, (d.compile settings resolver).result = .ok m →
          name ∈ m.indexToName.values.flatten ∧ name ∉ m.formParams := by
  constructor
  · intro r hline charset
    refine ⟨_, rfl, fun name => ?_⟩
    rw [Placeholder.mem_names, ← RequestLine.occurrences_of_parse? hline]
    exact (Draft.mem_namesIn_append charset r.target name).symm
  · intro d settings resolver hline name hname
    refine ⟨fun hunbound => ?_, fun m hm => Declaration.bound_of_line hline hm hname⟩
    cases hresult : (d.compile settings resolver).result with
    | error e => exact ⟨e, rfl⟩
    | ok m =>
      have hbound := (Declaration.bound_of_line hline hresult hname).1
      obtain ⟨draft, -, -, -, rfl⟩ := Declaration.compile_eq_ok.1 hresult
      obtain ⟨p, hp, hurl, hresolve⟩ :=
        NameResolver.mem_names.1 (Declaration.mem_names_of_mem_values hbound)
      exact absurd hresolve (hunbound p hp hurl)

/-- A brace that no name follows or that is not closed is plain text, in the line as in the parts
of its target. No parameter of the sample is called `size`. -/
theorem names_of_line_braces :
    RequestLine.parse? "  GET /a\x7b{id}?{q}={=}&&\x7bx.y&{z}  HTTP/1.1 " =
        some ⟨"GET", "/a\x7b{id}?{q}={=}&&\x7bx.y&{z}"⟩ ∧
      (∃ b, (Builder.start "utf-8").change (.append "/a\x7b{id}?{q}={=}&&\x7bx.y&{z}") = .ok b ∧
        b.snapshot.targetTexts = ["/a\x7b{id}", "{q}", "{=}", "\x7bx.y", "{z}"] ∧
        ∀ name, name ∈ ["id", "q", "z"] ↔
          name ∈ Placeholder.namesIn b.snapshot.targetTexts) ∧
      (∃ e, (({ Declaration.sample with requestLine := some "GET /{size}" }).compile {}
        (.standard true)).result = .error e) ∧
      "shop" ∉ Declaration.sampleMethod.formParams ∧
      "tag" ∉ Declaration.sampleMethod.formParams := by
  have hparse : RequestLine.parse? "  GET /a\x7b{id}?{q}={=}&&\x7bx.y&{z}  HTTP/1.1 " =
      some ⟨"GET", "/a\x7b{id}?{q}={=}&&\x7bx.y&{z}"⟩ := by decide +kernel
  obtain ⟨b, hb, hnames⟩ := (names_of_line _).1 _ hparse "utf-8"
  have hline : Declaration.sample.requestLine =
      some "POST /shops/{shop}/orders?tag={tag} HTTP/1.1" := rfl
  have hbound := fun name hname => ((names_of_line _).2 Declaration.sample {} (.standard true)
    hline name hname).2 _ Declaration.compile_sample
  refine ⟨hparse, ⟨b, hb, ?_, ?_⟩, ?_, ?_, ?_⟩
  · obtain rfl := Except.ok.inj hb
    decide +kernel
  · rwa [show Placeholder.names "  GET /a\x7b{id}?{q}={=}&&\x7bx.y&{z}  HTTP/1.1 " =
      ["id", "q", "z"] by decide +kernel] at hnames
  · exact ((names_of_line "GET /{size}").2
      { Declaration.sample with requestLine := some "GET /{size}" } {} (.standard true) rfl
      "size" (by decide)).1 (by decide)
  · exact (hbound "shop" (by decide)).2
  · exact (hbound "tag" (by decide)).2

end HttpInterface
