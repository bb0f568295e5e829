import HttpInterface.Proofs.Call
import HttpInterface.Proofs.Compile.Callable
import HttpInterface.Proofs.Compile.Consistency

/-!
# `HttpInterface.Proofs.Call.Shortage`: calls with too few arguments

A method uses arguments at positions of three kinds: those of its names, that of its body and that
of its base URL. A call checks first that there is an argument at the last position of a name, and
tells how many arguments there have to be. The other two positions are not part of this check.

`request_of_lacks` says how a call ends that does not reach all of them: it gives no request, and
`EndsShort` lists its five ends with the condition of each. A name without an argument is always
told. A body or a base URL without an argument is looked up where there is none
(`GoesUnchecked`), unless the call has failed before for another reason.
-/

set_option autoImplicit false

namespace HttpInterface

/-- The error tells that there are too few arguments. -/
def ArgumentError.isShortage : ArgumentError → Bool
  | .tooFew .. | .tooFewToTell => true
  | .outOfRange | .noPosition => false

/-- Behind the last argument there is none, and that is not told as a shortage. -/
theorem argumentAt_of_le {args : List Value} {i : Int} (hzero : 0 ≤ i) (hi : args.length ≤ i) :
    ∃ a, argumentAt args i = .error a ∧ a.isShortage = false := by
  have hnone : args[i.toNat]? = none := List.getElem?_eq_none (by omega)
  have hpos : ¬i < 0 := by omega
  refine ⟨if isPosition i then .outOfRange else .noPosition, ?_, ?_⟩
  · simp [argumentAt, hpos, hnone]
  · split
    · rfl
    · rfl

theorem le_of_greatest? {l : List Int} {i last : Int} (h : greatest? l = some last) (hi : i ∈ l) :
    i ≤ last := by
  have hmax : greatest? l = l.max? := by cases l <;> rfl
  exact (List.max?_eq_some_iff.1 (hmax ▸ h)).2 i hi

theorem exists_greatest? {l : List Int} {i : Int} (hi : i ∈ l) :
    ∃ last, greatest? l = some last := by
  cases l with
  | nil => exact absurd hi List.not_mem_nil
  | cons j l => exact ⟨_, rfl⟩

namespace CompiledMethod

/-- What a call tells that has no argument at the last position of a name. -/
def shortage (m : CompiledMethod) (args : List Value) (last : Int) : ArgumentError :=
  if Text.isTellable (last + 1) then .tooFew m.configKey (last + 1) args.length else .tooFewToTell

/-- The names get their arguments, and the template is expanded. -/
def Expands (m : CompiledMethod) (args : List Value) (options : CallOptions) : Prop :=
  ∃ named r, m.argumentsByName args = .ok named ∧
    m.template.expand named options.charset = .ok r

/-- The call has no argument for the base URL. -/
def LacksUrl (m : CompiledMethod) (args : List Value) : Prop :=
  ∃ i, m.urlIndex = some i ∧ args.length ≤ i

/-- The call has no argument for the body. -/
def LacksBody (m : CompiledMethod) (args : List Value) : Prop :=
  ∃ i, m.bodyIndex = some i ∧ args.length ≤ i

/-- The base URL of a call that does not lack the argument for it. -/
def givenBase (m : CompiledMethod) (args : List Value) (options : CallOptions) : Value :=
  match m.urlIndex with
  | none => options.baseUrl
  | some i => args.getD i.toNat .null

/-- The call looks for an argument where there is none: nothing has failed before, and it has no
argument for the base URL, or it has a base URL and no argument for the body. -/
def GoesUnchecked (m : CompiledMethod) (args : List Value) (options : CallOptions) : Prop :=
  m.Expands args options ∧
    (m.LacksUrl args ∨ (m.givenBase args options).isNull = false ∧ m.LacksBody args)

/-- The ends of a call that lacks an argument. -/
inductive EndsShort (m : CompiledMethod) (args : List Value) (options : CallOptions) :
    CallError → Prop
  /-- A name has no argument: the call tells how many arguments there have to be. -/
  | named {last : Int} : greatest? m.indexToName.keys = some last → args.length ≤ last →
      EndsShort m args options (.argument (m.shortage args last))
  /-- The names have arguments, but values are missing or a text has no bytes. -/
  | expansion {named : Arguments} {x : ExpansionError} : m.argumentsByName args = .ok named →
      m.template.expand named options.charset = .error x → (∀ name, x ≠ .unbound name) →
      EndsShort m args options (.expansion x)
  /-- The template is expanded, and the base URL has no argument. -/
  | url {a : ArgumentError} : m.Expands args options → m.LacksUrl args → a.isShortage = false →
      EndsShort m args options (.argument a)
  /-- The template is expanded, and there is no base URL. -/
  | baseless : m.Expands args options → ¬m.LacksUrl args →
      (m.givenBase args options).isNull = true → EndsShort m args options (.noBaseUrl m.configKey)
  /-- There is a base URL, and the body has no argument. -/
  | body {a : ArgumentError} : m.Expands args options → ¬m.LacksUrl args →
      (m.givenBase args options).isNull = false → m.LacksBody args → a.isShortage = false →
      EndsShort m args options (.argument a)

variable {m : CompiledMethod} {args : List Value} {options : CallOptions}

/-- A position of a name without an argument is noticed before any argument is looked up. -/
theorem argumentsByName_of_lacks {i : Int} (hi : i ∈ m.indexToName.keys)
    (hlacks : args.length ≤ i) :
    ∃ last, greatest? m.indexToName.keys = some last ∧ args.length ≤ last ∧
      m.argumentsByName args = .error (m.shortage args last) := by
  obtain ⟨last, hlast⟩ := exists_greatest? hi
  have hle : args.length ≤ last := Int.le_trans hlacks (le_of_greatest? hlast hi)
  refine ⟨last, hlast, hle, ?_⟩
  rw [argumentsByName, hlast, shortage]
  simp only [if_pos hle]
  rfl

theorem shortage_isShortage (last : Int) : (m.shortage args last).isShortage = true := by
  rw [shortage]
  split
  · rfl
  · rfl

/-- The base URL of a call: its argument may be missing, or it may be none. -/
theorem baseUrl_cases (hzero : ∀ i, m.urlIndex = some i → 0 ≤ i) (options : CallOptions) :
    (m.LacksUrl args ∧ ∃ a, m.baseUrl args options = .error (.argument a) ∧ a.isShortage = false) ∨
      (¬m.LacksUrl args ∧ (m.givenBase args options).isNull = true ∧
        m.baseUrl args options = .error (.noBaseUrl m.configKey)) ∨
      (¬m.LacksUrl args ∧ (m.givenBase args options).isNull = false ∧
        m.baseUrl args options = .ok (m.givenBase args options)) := by
  -- Once the base URL is found it is none or it is not.
  have hfound : ¬m.LacksUrl args → m.baseUrl args options = (do
      if (m.givenBase args options).isNull then throw (.noBaseUrl m.configKey)
      pure (m.givenBase args options)) := by
    intro hreached
    cases hurl : m.urlIndex with
    | none =>
      simp only [baseUrl, givenBase, hurl]
      rfl
    | some i =>
      have hlt : i < args.length := Int.not_le.1 fun hle => hreached ⟨i, hurl, hle⟩
      simp only [baseUrl, givenBase, hurl, argumentAt_of_lt (hzero i hurl) hlt]
      rfl
  by_cases hlacks : m.LacksUrl args
  · obtain ⟨i, hurl, hle⟩ := hlacks
    obtain ⟨a, ha, hshortage⟩ := argumentAt_of_le (hzero i hurl) hle
    refine Or.inl ⟨⟨i, hurl, hle⟩, a, ?_, hshortage⟩
    simp only [baseUrl, hurl, ha]
    rfl
  · rw [hfound hlacks]
    cases hnull : (m.givenBase args options).isNull with
    | true => exact Or.inr (Or.inl ⟨hlacks, rfl, rfl⟩)
    | false => exact Or.inr (Or.inr ⟨hlacks, rfl, rfl⟩)

/-- A call that is not prepared gives no request. -/
theorem request_of_prepare {e : CallError} (h : m.prepare args options = .error e) :
    m.request args options = .error e := by
  rw [request, h]
  rfl

section

variable {named : Arguments} (hnamed : m.argumentsByName args = .ok named)
include hnamed

theorem prepare_of_expand_error {x : ExpansionError}
    (h : m.template.expand named options.charset = .error x) :
    m.prepare args options = .error (.expansion x) := by
  rw [prepare, hnamed]
  refine bind_eq_error.2 (Or.inr ⟨named, rfl, bind_eq_error.2 (Or.inl ?_)⟩)
  rw [h]
  rfl

theorem prepare_of_baseUrl_error {r : ExpandedRequest} {e : CallError}
    (hexpand : m.template.expand named options.charset = .ok r)
    (h : m.baseUrl args options = .error e) : m.prepare args options = .error e := by
  rw [prepare, hnamed, h]
  refine bind_eq_error.2 (Or.inr ⟨named, rfl, bind_eq_error.2 (Or.inr ⟨r, ?_, rfl⟩)⟩)
  rw [hexpand]
  rfl

end

/-- Without an argument for the body a call that is prepared fails, if the body is to be an
argument. -/
theorem request_of_lacksBody {r : ExpandedRequest} {base : Value} {i : Int} (hzero : 0 ≤ i)
    (hprepare : m.prepare args options = .ok (r, base)) (hnone : r.body = none)
    (hbody : m.bodyIndex = some i) (hle : args.length ≤ i) :
    ∃ a, m.request args options = .error (.argument a) ∧ a.isShortage = false := by
  obtain ⟨a, ha, hshortage⟩ := argumentAt_of_le hzero hle
  have hargument : m.bodyArgument args r = .error (.argument a) := by
    simp only [bodyArgument, hbody, hnone, ha]
    rfl
  refine ⟨a, ?_, hshortage⟩
  rw [request, hprepare]
  refine bind_eq_error.2 (Or.inr ⟨(r, base), rfl, bind_eq_error.2 (Or.inl hargument)⟩)

/-- If the names and the base URL have arguments, it is the body that has none. -/
theorem lacksBody_of_lacks (hlacks : ∃ i ∈ m.usedPositions, args.length ≤ i)
    (hnames : ¬∃ i ∈ m.indexToName.keys, args.length ≤ i) (hurl : ¬m.LacksUrl args) :
    m.LacksBody args := by
  obtain ⟨i, hi, hle⟩ := hlacks
  simp only [usedPositions, List.mem_append, Option.mem_toList] at hi
  rcases hi with (hi | hi) | hi
  · exact absurd ⟨i, hi, hle⟩ hnames
  · exact ⟨i, hi, hle⟩
  · exact absurd ⟨i, hi, hle⟩ hurl

section

variable (hzero : ∀ i ∈ m.usedPositions, 0 ≤ i)
  (hbound : ∀ name ∈ m.template.placeholders, name ∈ m.boundNames)
  (hbody : ∀ i, m.bodyIndex = some i → m.template.body = none ∧ m.template.bodyTemplate = none)
include hzero hbound hbody

/-- A call that lacks an argument has one of the five ends. -/
theorem endsShort_of_lacks (hlacks : ∃ i ∈ m.usedPositions, args.length ≤ i)
    (options : CallOptions) :
    ∃ e, m.request args options = .error e ∧ m.EndsShort args options e := by
  by_cases hnames : ∃ i ∈ m.indexToName.keys, args.length ≤ i
  · obtain ⟨i, hi, hle⟩ := hnames
    obtain ⟨last, hlast, hle, hnamed⟩ := argumentsByName_of_lacks hi hle
    refine ⟨_, request_of_prepare ?_, .named hlast hle⟩
    rw [prepare, hnamed]
    rfl
  have hreached : ∀ i ∈ m.indexToName.keys, 0 ≤ i ∧ i < args.length := fun i hi =>
    ⟨hzero i (by simp [usedPositions, hi]), Int.not_le.1 fun hle => hnames ⟨i, hi, hle⟩⟩
  have hnamed := argumentsByName_eq hreached
  have hcovers : ∀ name ∈ m.template.placeholders,
      name ∈ (OrderedMap.ofList (m.namedArguments args)).keys := by
    intro name hname
    rw [OrderedMap.mem_keys_ofList, map_fst_namedArguments]
    exact hbound name hname
  cases hexpand : m.template.expand (OrderedMap.ofList (m.namedArguments args)) options.charset with
  | error x =>
    refine ⟨_, request_of_prepare (prepare_of_expand_error hnamed hexpand),
      .expansion hnamed hexpand ?_⟩
    rintro name rfl
    exact (callable_of_covers hnamed hcovers).found name hexpand
  | ok r =>
    have hexpands : m.Expands args options := ⟨_, r, hnamed, hexpand⟩
    have hurlZero : ∀ i, m.urlIndex = some i → 0 ≤ i := fun i hi =>
      hzero i (by simp [usedPositions, hi])
    rcases baseUrl_cases hurlZero options with
      ⟨hurl, a, hbase, hshortage⟩ | ⟨hurl, hnull, hbase⟩ | ⟨hurl, hnull, hbase⟩
    · exact ⟨_, request_of_prepare (prepare_of_baseUrl_error hnamed hexpand hbase),
        .url hexpands hurl hshortage⟩
    · exact ⟨_, request_of_prepare (prepare_of_baseUrl_error hnamed hexpand hbase),
        .baseless hexpands hurl hnull⟩
    · obtain ⟨i, hindex, hle⟩ := lacksBody_of_lacks hlacks hnames hurl
      have hnone : r.body = none := Template.body_eq_none_of_expand hexpand (hbody i hindex)
      obtain ⟨a, hrequest, hshortage⟩ := request_of_lacksBody
        (hzero i (by simp [usedPositions, hindex]))
        (prepare_eq_ok.2 ⟨_, hnamed, hexpand, hbase⟩) hnone hindex hle
      exact ⟨_, hrequest, .body hexpands hurl hnull ⟨i, hindex, hle⟩ hshortage⟩

end

/-- Which of the ends is no shortage that is told, and no other failure either. -/
theorem EndsShort.unchecked_iff {e : CallError} (h : m.EndsShort args options e) :
    (∃ a, e = .argument a ∧ a.isShortage = false) ↔ m.GoesUnchecked args options := by
  cases h with
  | @named last hlast hle =>
    constructor
    · rintro ⟨a, ha, hshortage⟩
      obtain rfl := CallError.argument.inj ha
      exact nomatch (shortage_isShortage last).symm.trans hshortage
    · rintro ⟨⟨_, _, hnamed, -⟩, -⟩
      obtain ⟨_, -, -, herror⟩ := argumentsByName_of_lacks (mem_of_greatest? hlast) hle
      exact nomatch hnamed.symm.trans herror
  | expansion hnamed hexpand hx =>
    refine ⟨fun ⟨a, ha, _⟩ => (nomatch ha), fun ⟨⟨_, _, hnamed', hok⟩, _⟩ => ?_⟩
    obtain rfl := Except.ok.inj (hnamed.symm.trans hnamed')
    exact nomatch hexpand.symm.trans hok
  | url hexpands hurl hshortage =>
    exact ⟨fun _ => ⟨hexpands, Or.inl hurl⟩, fun _ => ⟨_, rfl, hshortage⟩⟩
  | baseless hexpands hurl hnull =>
    refine ⟨fun ⟨a, ha, _⟩ => (nomatch ha), fun ⟨_, hlacks⟩ => ?_⟩
    rcases hlacks with hlacks | ⟨hgiven, -⟩
    · exact absurd hlacks hurl
    · exact nomatch hnull.symm.trans hgiven
  | body hexpands hurl hnull hbody hshortage =>
    exact ⟨fun _ => ⟨hexpands, Or.inr ⟨hnull, hbody⟩⟩, fun _ => ⟨_, rfl, hshortage⟩⟩

end CompiledMethod

namespace Declaration

/-- The names of the placeholders of a compiled method have arguments. -/
theorem boundNames_of_compile {d : Declaration} {settings : Settings} {r : NameResolver}
    {m : CompiledMethod} (hm : (d.compile settings r).result = .ok m) :
    ∀ name ∈ m.template.placeholders, name ∈ m.boundNames := by
  obtain ⟨draft, -, -, hcheck, rfl⟩ := compile_eq_ok.1 hm
  exact (checkBindings_eq_ok.1 hcheck).1

/-- A call of a compiled method that lacks an argument gives no request. It has one of five ends,
and it is an argument that is looked up in vain exactly if no check has failed before. -/
theorem request_of_lacks (d : Declaration) (settings : Settings) (r : NameResolver)
    (m : CompiledMethod) (hindices : d.IndexedFromZero)
    (hm : (d.compile settings r).result = .ok m) (args : List Value)
    (hlacks : ∃ i ∈ m.usedPositions, args.length ≤ i) (options : CallOptions) :
    ∃ e, m.request args options = .error e ∧ m.EndsShort args options e ∧
      ((∃ a, e = .argument a ∧ a.isShortage = false) ↔ m.GoesUnchecked args options) := by
  obtain ⟨haccounts, -⟩ := consistent_of_compile d settings r m hindices.distinct hm
  have hzero : ∀ i ∈ m.usedPositions, 0 ≤ i := by
    intro i hi
    obtain ⟨p, hp, rfl, -⟩ := (haccounts.cover i).1 hi
    exact (hindices.bounds p hp).1
  have hbody : ∀ i, m.bodyIndex = some i →
      m.template.body = none ∧ m.template.bodyTemplate = none := by
    intro i hi
    obtain ⟨hbytes, htemplate, -⟩ := haccounts.body_parameter i hi
    exact ⟨hbytes, htemplate⟩
  obtain ⟨e, hrequest, hends⟩ :=
    CompiledMethod.endsShort_of_lacks hzero (boundNames_of_compile hm) hbody hlacks options
  exact ⟨e, hrequest, hends, hends.unchecked_iff⟩

/-- A call of the sample with an argument for each name and none for the base URL. -/
def shortCall : List Value :=
  [.text "a/b", .list [.int 1, .int 2], .text "tea"]

/-- The argument for the base URL is looked up in vain. -/
theorem request_of_lacks_sample :
    sample.IndexedFromZero ∧ (sample.compile {} (.standard true)).result = .ok sampleMethod ∧
      (∃ i ∈ sampleMethod.usedPositions, (shortCall.length : Int) ≤ i) ∧
      ∃ e, sampleMethod.request shortCall {} = .error e ∧
        ∃ a, e = .argument a ∧ a.isShortage = false := by
  have hindices : sample.IndexedFromZero := ⟨by decide, by decide⟩
  have hlacks : ∃ i ∈ sampleMethod.usedPositions, (shortCall.length : Int) ≤ i :=
    ⟨3, by decide, by decide⟩
  obtain ⟨e, hrequest, -, hunchecked⟩ := request_of_lacks sample {} _ sampleMethod hindices
    compile_sample shortCall hlacks {}
  have hexpands : sampleMethod.Expands shortCall {} := ⟨_, _, rfl, rfl⟩
  exact ⟨hindices, compile_sample, hlacks, e, hrequest,
    hunchecked.2 ⟨hexpands, Or.inl ⟨3, rfl, by decide⟩⟩⟩

/-- A declaration whose one parameter is the body. -/
def upload : Declaration where
  declaringType := "Files"
  methodName := "upload"
  requestLine := some "POST /files"
  parameters := [{ index := 0, name := "content", type := .any }]

/-- A call without the body is not told that an argument is missing. -/
theorem request_of_upload :
    ∃ m, (upload.compile {} (.standard true)).result = .ok m ∧ m.bodyIndex = some 0 ∧
      m.request [] { baseUrl := .text "https://h.test" } = .error (.argument .outOfRange) := by
  exact ⟨_, rfl, rfl, rfl⟩

end Declaration

end HttpInterface
