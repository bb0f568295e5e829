import HttpInterface.Proofs.Compile.Method
import HttpInterface.Proofs.Expansion
import HttpInterface.Proofs.Url.Parts
import HttpInterface.Proofs.Call

/-!
# `HttpInterface.Proofs.Origin`: where a request goes to

The target of a request is the text of its base without the slashes at its end, and the url of
the request right behind it. If the base ends with its authority and the url does not begin with
a character that ends one, the authority goes on with the url: `spill` is what it goes on with.

`origin_of_request` says that nothing else can change the origin. The authority of the target is
that of the base and the spill, and without a spill the request goes to the origin of the base,
whatever the arguments. A url that is empty or begins with a slash spills nothing.
-/

set_option autoImplicit false

namespace HttpInterface

namespace ExpandedRequest

variable {r : ExpandedRequest} {base : Value}

/-- The query as it stands in a target. -/
def queryPart (r : ExpandedRequest) : List Char :=
  if r.queryString.isEmpty then [] else '?' :: r.queryString.toList

theorem toList_target (hnull : base.isNull = false) :
    (r.target base).toList =
      Url.trimmed base.display.toList ++ (r.url.toList ++ r.queryPart) := by
  have hbased : (r.basedUrl base).toList = Url.trimmed base.display.toList ++ r.url.toList := by
    rw [basedUrl, if_neg (by simp [hnull]), String.toList_append, Url.toList_trimSlashes]
  simp only [target, queryPart]
  split
  · rw [hbased, List.append_nil]
  · rw [String.toList_append, String.toList_append, hbased, List.append_assoc, List.append_assoc]
    rfl

/-- What the authority of a base goes on with: the front of the url, if the base ends with its
authority. -/
def spill (r : ExpandedRequest) (base : String) : List Char :=
  let parts := Url.split (Url.trimmed base.toList)
  if parts.path = [] ∧ parts.query = none ∧ parts.fragment = none then
    r.url.toList.takeWhile (!Url.endsAuthority ·)
  else []

/-- A url that is empty or begins with a slash spills nothing. -/
theorem spill_eq_nil {base : String} (h : ∀ c, r.url.toList.head? = some c → c = '/') :
    r.spill base = [] := by
  rw [spill]
  split
  · cases hurl : r.url.toList with
    | nil => rfl
    | cons c rest =>
      rw [hurl] at h
      rw [h c rfl]
      rfl
  · rfl

/-- The target is a URL of the scheme of the base, and its authority is the one of the base and
what it goes on with. -/
theorem split_target {s a rest : List Char} (h : Url.Anchored s a rest base.display.toList)
    (hnull : base.isNull = false) :
    (Url.split (r.target base).toList).scheme = s ∧
      (Url.split (r.target base).toList).authority = a ++ r.spill base.display := by
  have hspill : r.spill base.display =
      if Url.trimmed rest = [] then r.url.toList.takeWhile (!Url.endsAuthority ·) else [] := by
    simp only [spill, h.trimmed.split_eq, Url.behind_eq_iff]
  rw [toList_target hnull, hspill]
  split
  · next hempty =>
    -- The base ends with its authority, which goes on up to the query at most.
    have hquery : r.queryPart.takeWhile (!Url.endsAuthority ·) = [] := by
      rw [queryPart]
      split
      · rfl
      · rfl
    have hurl : (r.url.toList ++ r.queryPart).takeWhile (!Url.endsAuthority ·) =
        r.url.toList.takeWhile (!Url.endsAuthority ·) := by
      rw [List.takeWhile_append, hquery, List.append_nil]
      split
      · next hlength => exact (List.takeWhile_prefix _).eq_of_length hlength |>.symm
      · rfl
    have hanchored := h.trimmed
    rw [hempty] at hanchored
    rw [(hanchored.goOn _).split_eq, hurl]
    exact ⟨rfl, rfl⟩
  · next hrest =>
    rw [(h.trimmed.append fun hempty => absurd hempty hrest).split_eq]
    exact ⟨rfl, (List.append_nil a).symm⟩

end ExpandedRequest

namespace Template

/-- The url of a request begins with a slash if that of the template does. -/
theorem head?_filled {args : Arguments} {render : Value → String} {text : String}
    (h : ∀ c, text.toList.head? = some c → c = '/') :
    ∀ c, (filled args render text).toList.head? = some c → c = '/' := by
  rw [filled, Placeholder.toList_substitute]
  cases htext : text.toList with
  | nil =>
    intro c hc
    cases hc
  | cons c rest =>
    rw [htext] at h
    obtain rfl := h c rfl
    have hfilled := Placeholder.filled_append (c := '/') (by decide)
      (fun name => render (args.value name)) [] rest
    rw [List.nil_append] at hfilled
    rw [hfilled]
    intro c hc
    exact (Option.some.inj hc).symm

end Template

namespace CompiledMethod

/-- A call without a base gives no request. -/
theorem isNull_of_baseUrl {m : CompiledMethod} {args : List Value} {options : CallOptions}
    {base : Value} (h : m.baseUrl args options = .ok base) : base.isNull = false := by
  -- Wherever the base comes from, it is checked.
  have key : ∀ v : Value, (do
      if v.isNull then throw (.noBaseUrl m.configKey)
      pure v : Except CallError Value) = .ok base → base.isNull = false := by
    intro v hv
    split at hv
    · exact nomatch hv
    · next hnull =>
      obtain rfl := Except.ok.inj hv
      simpa using hnull
  rw [baseUrl] at h
  split at h
  · exact key _ h
  · obtain ⟨v, -, h⟩ := bind_eq_ok.1 h
    exact key v h

/-- The authority of a request is the one of its base and what it goes on with. Where it does not
go on, the origin of the request is the origin of its base; so it is for every call if the url of
the method is empty or begins with a slash. -/
theorem origin_of_request (m : CompiledMethod) (args : List Value) (options : CallOptions)
    (r : ExpandedRequest) (base : Value) (b : Url) (w : WireRequest)
    (hprepare : m.prepare args options = .ok (r, base))
    (hrequest : m.request args options = .ok w) (hbase : Url.parse base.display = .ok b)
    (habsolute : b.isAbsolute = true) :
    (Url.split (r.target base).toList).scheme = (Url.split base.display.toList).scheme ∧
      (Url.split (r.target base).toList).authority =
        (Url.split base.display.toList).authority ++ r.spill base.display ∧
      (r.spill base.display = [] → w.url.origin = b.origin) ∧
      ((∀ c, m.template.url.toList.head? = some c → c = '/') → w.url.origin = b.origin) := by
  obtain ⟨named, -, hexpand, hbaseUrl⟩ := prepare_eq_ok.1 hprepare
  have hurl := parse_target hprepare hrequest
  obtain ⟨s, a, rest, hanchored⟩ := Url.anchored_of_isAbsolute hbase habsolute
  obtain ⟨hscheme, hauthority⟩ :=
    ExpandedRequest.split_target (r := r) hanchored (isNull_of_baseUrl hbaseUrl)
  have hparts := hanchored.split_eq
  have horigin : r.spill base.display = [] → w.url.origin = b.origin := by
    intro hspill
    rw [hspill, List.append_nil] at hauthority
    refine Url.origin_eq hurl hbase ?_ ?_
    · rw [hscheme, hparts]
    · rw [hauthority, hparts]
  refine ⟨by rw [hscheme, hparts], by rw [hauthority, hparts], horigin, fun hhead => horigin ?_⟩
  refine ExpandedRequest.spill_eq_nil ?_
  rw [(Template.expand_eq_ok hexpand).2.1]
  exact Template.head?_filled hhead

end CompiledMethod

namespace Declaration

theorem origin_sample :
    sampleMethod.prepare sampleCall {} = .ok (sampleExpanded, .text "http://host") ∧
      sampleMethod.request sampleCall {} = .ok sampleSent ∧
      ∃ b, Url.parse "http://host" = .ok b ∧ b.isAbsolute = true ∧
        sampleSent.url.origin = b.origin := by
  have hhead : ∀ c, sampleMethod.template.url.toList.head? = some c → c = '/' := by
    intro c hc
    exact (Option.some.inj hc).symm
  refine ⟨prepare_sample, request_sample, _, rfl, rfl, ?_⟩
  exact (CompiledMethod.origin_of_request sampleMethod sampleCall {} sampleExpanded
    (.text "http://host") _ sampleSent prepare_sample request_sample rfl rfl).2.2.2 hhead

/-- A declaration whose url is a placeholder alone. -/
def proxy : Declaration where
  declaringType := "Proxy"
  methodName := "get"
  requestLine := some "GET {path}"
  parameters := [{ index := 0, name := "path", primaryName := some "path" }]

/-- The argument makes another host out of the host of the base. -/
theorem origin_of_proxy :
    ∃ m w b, (proxy.compile {} (.standard true)).result = .ok m ∧
      m.request [.text ".evil.test"] { baseUrl := .text "https://api.test/" } = .ok w ∧
      Url.parse "https://api.test/" = .ok b ∧ b.isAbsolute = true ∧ b.host = "api.test" ∧
      w.url.host = "api.test.evil.test" := by
  exact ⟨_, _, _, rfl, rfl, rfl, rfl, rfl, rfl⟩

end Declaration

end HttpInterface
