import HttpInterface.Call
import HttpInterface.Proofs.Compile.Method

/-!
# `HttpInterface.Proofs.Call`: a call step by step

A call that gives a request has gone through all its steps. `request_eq_ok` takes it apart at the
point where the body is known: an expanded request, a base, and what the body argument adds. What
is sent differs from the expanded request in its headers and its body only, so the url is known
there already (`Finished.target`).

`WireRequest.make_eq_ok` reads off what a request that is sent is made of: the URL of its target,
the body as its content, and its own headers behind those that go in front. Where a header states
the length of the content already, no other length is added (`WireRequest.headers_of_mem`). The
target is known as soon as a call is prepared (`parse_target`).
-/

set_option autoImplicit false

namespace HttpInterface

namespace CompiledMethod

variable {m : CompiledMethod} {args : List Value} {options : CallOptions}
  {r : ExpandedRequest} {base : Value}

theorem prepare_eq_ok :
    m.prepare args options = .ok (r, base) ↔
      ∃ named, m.argumentsByName args = .ok named ∧
        m.template.expand named options.charset = .ok r ∧ m.baseUrl args options = .ok base := by
  simp only [prepare, bind_eq_ok, mapError_eq_ok]
  constructor
  · rintro ⟨named, hnamed, expanded, hexpand, base', hbase, h⟩
    obtain ⟨rfl, rfl⟩ := Prod.mk.inj (Except.ok.inj h)
    exact ⟨named, hnamed, hexpand, hbase⟩
  · rintro ⟨named, hnamed, hexpand, hbase⟩
    exact ⟨named, hnamed, r, hexpand, base, hbase, rfl⟩

/-- What the body argument makes of an expanded request. -/
inductive Finished (m : CompiledMethod) (args : List Value) (options : CallOptions)
    (r : ExpandedRequest) : ExpandedRequest → Prop
  /-- There is no body argument, or none is needed. -/
  | unchanged : m.bodyArgument args r = .ok none → Finished m args options r r
  /-- The argument is the body. -/
  | encoded {value : Value} {content : Bytes} : m.bodyArgument args r = .ok (some value) →
      m.encodeBody options value = .ok content →
      Finished m args options r (setContent content r)

theorem request_eq_ok {w : WireRequest} :
    m.request args options = .ok w ↔
      ∃ r base complete, m.prepare args options = .ok (r, base) ∧
        Finished m args options r complete ∧ complete.toWire base = .ok w := by
  simp only [request, bind_eq_ok, Prod.exists]
  constructor
  · rintro ⟨r, base, hprepare, value, hvalue, hwire⟩
    cases value with
    | none =>
      simp only [pure_bind, mapError_eq_ok] at hwire
      exact ⟨r, base, r, hprepare, .unchanged hvalue, hwire⟩
    | some value =>
      simp only [pure_bind, bind_eq_ok, mapError_eq_ok] at hwire
      obtain ⟨content, hcontent, hwire⟩ := hwire
      exact ⟨r, base, _, hprepare, .encoded hvalue hcontent, hwire⟩
  · rintro ⟨r, base, complete, hprepare, hfinished, hwire⟩
    refine ⟨r, base, hprepare, ?_⟩
    cases hfinished with
    | unchanged hvalue =>
      refine ⟨none, hvalue, ?_⟩
      simpa only [pure_bind, mapError_eq_ok] using hwire
    | @encoded value content hvalue hcontent =>
      refine ⟨some value, hvalue, ?_⟩
      simp only [pure_bind, bind_eq_ok, mapError_eq_ok]
      exact ⟨content, hcontent, hwire⟩

/-- The body argument changes no part of the target. -/
theorem Finished.target {complete : ExpandedRequest} (h : Finished m args options r complete)
    (base : Value) : complete.target base = r.target base := by
  cases h with
  | unchanged => rfl
  | encoded => rfl

end CompiledMethod

namespace Declaration

/-- A call of the sample. -/
def sampleCall : List Value :=
  [.text "a/b", .list [.int 1, .int 2], .text "tea", .text "http://host", .null]

/-- What the call is expanded to. -/
def sampleExpanded : ExpandedRequest where
  method := "POST"
  url := "/shops/a%2Fb/orders"
  queries := ⟨[("tag", [some "1", some "2"])], by decide⟩
  headers := ⟨[("X-Trace", ["1", "2"]), ("Content-Length", ["8"])], by decide⟩
  body := some (Charset.Utf8.encode "item=tea".toList)

/-- What the call sends. -/
def sampleSent : WireRequest where
  method := "POST"
  url :=
    { scheme := "http", userinfo := "", host := "host", port := none
      path := "/shops/a%2Fb/orders", query := some "tag=1&tag=2", fragment := none }
  headers := [("Host", "host"), ("X-Trace", "1"), ("X-Trace", "2"), ("Content-Length", "8")]
  content := Charset.Utf8.encode "item=tea".toList

theorem prepare_sample :
    sampleMethod.prepare sampleCall {} = .ok (sampleExpanded, .text "http://host") := by
  rfl

theorem request_sample : sampleMethod.request sampleCall {} = .ok sampleSent := by
  rfl

end Declaration

/-! ### What is sent -/

namespace WireRequest

variable {method target : String} {headers : List (String × String)} {body : Option Bytes}
  {w : WireRequest}

theorem make_eq_ok (h : make method target headers body = .ok w) :
    Url.parse target = .ok w.url ∧ w.content = body.getD [] ∧
      w.headers = leading (Text.upper method) w.url (withContentLength w.content headers) ++
        withContentLength w.content headers := by
  simp only [make, bind_eq_ok, mapError_eq_ok] at h
  obtain ⟨url, hurl, -, -, -, -, h⟩ := h
  obtain rfl := Except.ok.inj h
  exact ⟨hurl, rfl, rfl⟩

/-- Behind a length that is stated already only the host is added, in front. -/
theorem headers_of_mem (h : make method target headers body = .ok w) {value : String}
    (hlength : (Header.contentLength, value) ∈ headers) :
    ∃ host, (∀ e ∈ host, e.1 = "Host") ∧ w.headers = host ++ headers := by
  have hhas : hasHeader Header.contentLength headers = true :=
    List.any_eq_true.2 ⟨_, hlength, by simp [sameName]⟩
  have hwith : withContentLength w.content headers = headers := by
    rw [withContentLength, hhas, Bool.or_true, if_pos rfl]
  obtain ⟨-, -, hheaders⟩ := make_eq_ok h
  rw [hwith, leading] at hheaders
  simp only [hhas, Bool.true_or, if_true, List.append_nil] at hheaders
  refine ⟨_, ?_, hheaders⟩
  intro e he
  split at he
  · exact absurd he List.not_mem_nil
  · rw [List.mem_singleton.1 he]

end WireRequest

/-- The URL that is sent is that of the target of the expanded request. -/
theorem CompiledMethod.parse_target {m : CompiledMethod} {args : List Value}
    {options : CallOptions} {r : ExpandedRequest} {base : Value} {w : WireRequest}
    (hprepare : m.prepare args options = .ok (r, base))
    (hrequest : m.request args options = .ok w) : Url.parse (r.target base) = .ok w.url := by
  obtain ⟨r', base', complete, hprepare', hfinished, hwire⟩ := request_eq_ok.1 hrequest
  obtain ⟨rfl, rfl⟩ := Prod.mk.inj (Except.ok.inj (hprepare.symm.trans hprepare'))
  obtain ⟨hparse, -, -⟩ := WireRequest.make_eq_ok hwire
  rwa [hfinished.target] at hparse

end HttpInterface
