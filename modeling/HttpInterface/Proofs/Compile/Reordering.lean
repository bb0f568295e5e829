import HttpInterface.Proofs.Call
import HttpInterface.Proofs.Compile.Callable
import HttpInterface.Proofs.Expansion.Alike
import Mathlib.Data.List.FinRange
import Mathlib.Data.List.Find

/-!
# `HttpInterface.Proofs.Compile.Reordering`: parameters in another order

Parameters may be declared in another order if the arguments of every call are passed in
that order too. `compile_reordered` says that then the template is the same and every
call gives the same request, or fails for the same reason. Only a message that tells the
key of the method may differ, since the key lists the types of the parameters.

A call does not depend on positions but on the pairs of a parameter, its position left
out, and its argument: its `rows`. The names get their arguments from the rows
(`namedArguments_method`), and so do the base URL and the body (`urlArgument_method`,
`bodyCandidate_method`). Reordering permutes the rows (`rows_reordered_perm`). Which row is found
does not depend on their order, because there is at most one for every name, for the base
URL and for the body. And expanding looks the arguments up by name, in no order
(`Template.expand_alike`).
-/

set_option autoImplicit false

namespace HttpInterface

/-! ### What does not depend on an order -/

/-- A row with at most one element of a kind gives that element in every order. -/
theorem find?_eq_of_perm {α : Type} {q : α → Bool} {l l' : List α} (h : l.Perm l')
    (hone : l.countP q ≤ 1) : l.find? q = l'.find? q := by
  have hone' : l'.countP q ≤ 1 := h.countP_eq q ▸ hone
  refine Option.ext fun a => ?_
  rw [find?_eq_some_iff_of_countP_le_one hone, find?_eq_some_iff_of_countP_le_one hone',
    h.mem_iff]

/-- Entries with different keys are found in every order. -/
theorem OrderedMap.get?_ofList_of_perm {κ α : Type} [DecidableEq κ]
    {entries entries' : List (κ × α)} (h : entries.Perm entries')
    (hnodup : (entries.map Prod.fst).Nodup) (k : κ) :
    (ofList entries).get? k = (ofList entries').get? k := by
  have hnodup' : (entries'.map Prod.fst).Nodup := (h.map Prod.fst).nodup_iff.1 hnodup
  refine Option.ext fun v => ?_
  rw [get?_eq_some_iff, get?_eq_some_iff, entries_ofList hnodup, entries_ofList hnodup', h.mem_iff]

/-! ### A call without positions -/

/-- The same failure of a method with another key. -/
def CallError.withKey (key : String) : CallError → CallError
  | .argument (.tooFew _ expected given) => .argument (.tooFew key expected given)
  | .noBaseUrl _ => .noBaseUrl key
  | e => e

/-- What the arguments of a call are used for. -/
structure CallUses where
  /-- The argument of a name. -/
  find : String → Option Value
  /-- The argument that replaces the base URL. -/
  url : Option Value
  /-- The argument that is the body, unless the template has one. -/
  body : Option Value
  bodyType : TypeExpr

namespace CompiledMethod

/-- The method puts the arguments to these uses. -/
structure Binds (m : CompiledMethod) (args : List Value) (u : CallUses) : Prop where
  named : ∃ named, m.argumentsByName args = .ok named ∧ ∀ name, named.get? name = u.find name
  url : m.urlIndex.map (argumentAt args) = u.url.map .ok
  body : m.bodyIndex.map (argumentAt args) = u.body.map .ok
  bodyType : m.bodyType = u.bodyType

section

variable {m : CompiledMethod} {args : List Value} {u : CallUses}

theorem Binds.baseUrl_eq (h : m.Binds args u) (options : CallOptions) :
    m.baseUrl args options =
      if (u.url.getD options.baseUrl).isNull then .error (.noBaseUrl m.configKey)
      else .ok (u.url.getD options.baseUrl) := by
  have hurl := h.url
  cases hindex : m.urlIndex with
  | none =>
    rw [hindex, Option.map_none] at hurl
    rw [Option.map_eq_none_iff.1 hurl.symm]
    simp only [baseUrl, hindex]
    rfl
  | some index =>
    rw [hindex, Option.map_some] at hurl
    obtain ⟨v, hv, hargument⟩ := Option.map_eq_some_iff.1 hurl.symm
    rw [hv]
    simp only [baseUrl, hindex, ← hargument]
    rfl

theorem Binds.bodyArgument_eq (h : m.Binds args u) (r : ExpandedRequest) :
    m.bodyArgument args r =
      .ok (if r.body.isSome then none else u.body.filter fun v => !v.isNull) := by
  have hbody := h.body
  cases hindex : m.bodyIndex with
  | none =>
    rw [hindex, Option.map_none] at hbody
    rw [Option.map_eq_none_iff.1 hbody.symm]
    simp [bodyArgument, hindex]
  | some index =>
    rw [hindex, Option.map_some] at hbody
    obtain ⟨v, hv, hargument⟩ := Option.map_eq_some_iff.1 hbody.symm
    rw [hv]
    cases hr : r.body with
    | some bytes => simp [bodyArgument, hr]
    | none =>
      rw [bodyArgument, hindex, hr]
      show ((argumentAt args index).mapError CallError.argument >>= fun value =>
        pure (if value.isNull then none else some value)) = _
      rw [← hargument]
      cases hnull : v.isNull <;> simp [Except.mapError, hnull, Option.filter]

/-- A call of a method that puts its arguments to known uses, up to the body. -/
theorem Binds.prepare_eq (h : m.Binds args u) (options : CallOptions) :
    ∃ named, (∀ name, named.get? name = u.find name) ∧
      m.prepare args options =
        match m.template.expand named options.charset with
        | .error e => .error (.expansion e)
        | .ok expanded =>
          if (u.url.getD options.baseUrl).isNull then .error (.noBaseUrl m.configKey)
          else .ok (expanded, u.url.getD options.baseUrl) := by
  obtain ⟨named, hnamed, hfind⟩ := h.named
  refine ⟨named, hfind, ?_⟩
  simp only [prepare, hnamed, h.baseUrl_eq, Except.mapError, bind, Except.bind]
  cases m.template.expand named options.charset with
  | error e => rfl
  | ok expanded =>
    cases (u.url.getD options.baseUrl).isNull with
    | true => rfl
    | false => rfl

/-- Encoding a body fails for reasons that do not name the method. -/
theorem encodeBody_withKey (m : CompiledMethod) (options : CallOptions) (v : Value)
    (key : String) :
    (m.encodeBody options v).mapError (CallError.withKey key) = m.encodeBody options v := by
  unfold encodeBody
  split
  · rfl
  · next text =>
    cases Charset.encode options.charset text.toList <;> rfl
  · cases options.encoder <;> rfl

/-- Encoding a body depends on its type. -/
theorem encodeBody_congr {m' : CompiledMethod} (h : m'.bodyType = m.bodyType)
    (options : CallOptions) (v : Value) : m'.encodeBody options v = m.encodeBody options v := by
  unfold encodeBody
  rw [h]

end

/-! ### Two calls with the same uses -/

section

variable {m m' : CompiledMethod} {args args' : List Value} {u : CallUses}
  (htemplate : m'.template = m.template) (h : m.Binds args u) (h' : m'.Binds args' u)
  (options : CallOptions)
include htemplate h h'

theorem prepare_eq_of_binds :
    m'.prepare args' options =
      (m.prepare args options).mapError (CallError.withKey m'.configKey) := by
  obtain ⟨named, hfind, hprepare⟩ := h.prepare_eq options
  obtain ⟨named', hfind', hprepare'⟩ := h'.prepare_eq options
  have hexpand : m'.template.expand named' options.charset =
      m.template.expand named options.charset := by
    rw [htemplate]
    exact Template.expand_alike
      (Arguments.alikeOn_of_get? fun name _ => (hfind' name).trans (hfind name).symm) _
  rw [hprepare, hprepare', hexpand]
  cases m.template.expand named options.charset with
  | error e => rfl
  | ok expanded =>
    cases (u.url.getD options.baseUrl).isNull with
    | true => rfl
    | false => rfl

theorem request_eq_of_binds :
    m'.request args' options =
      (m.request args options).mapError (CallError.withKey m'.configKey) := by
  rw [request, request, prepare_eq_of_binds htemplate h h' options]
  cases m.prepare args options with
  | error e => rfl
  | ok prepared =>
    obtain ⟨expanded, base⟩ := prepared
    -- Making the request ready fails for reasons that do not name the method either.
    obtain ⟨send, hsend, hkeep⟩ : ∃ send : ExpandedRequest → Except CallError WireRequest,
        (∀ complete, (complete.toWire base).mapError CallError.wire = send complete) ∧
          ∀ complete, (send complete).mapError (CallError.withKey m'.configKey) = send complete :=
      ⟨_, fun _ => rfl, fun complete => by cases complete.toWire base <;> rfl⟩
    simp only [bind, Except.bind, Except.mapError.eq_2, h.bodyArgument_eq, h'.bodyArgument_eq,
      hsend]
    cases (if expanded.body.isSome then none else u.body.filter fun v => !v.isNull) with
    | none => exact (hkeep expanded).symm
    | some v =>
      have hkey := encodeBody_withKey m options v m'.configKey
      simp only [encodeBody_congr (h'.bodyType.trans h.bodyType.symm)]
      cases hencode : m.encodeBody options v with
      | error e =>
        rw [hencode] at hkey
        exact congrArg Except.error (Except.error.inj hkey).symm
      | ok content => exact (hkeep (setContent content expanded)).symm

/-- An encoder is asked for the same value. -/
theorem encoderInput?_eq_of_binds :
    m'.encoderInput? args' options = m.encoderInput? args options := by
  rw [encoderInput?, encoderInput?, prepare_eq_of_binds htemplate h h' options]
  cases m.prepare args options with
  | error e => rfl
  | ok prepared =>
    obtain ⟨expanded, base⟩ := prepared
    simp only [Except.mapError, bind, Except.bind, h.bodyArgument_eq, h'.bodyArgument_eq]

end

end CompiledMethod

/-! ### Rows -/

/-- The names of some parameters do not depend on their positions. -/
def NameResolver.IgnoresPosition (r : NameResolver) (ps : List Parameter) : Prop :=
  ∀ p ∈ ps, ∀ i, r.resolve { p with index := i } = r.resolve p

/-- The usual names are read off the markers alone. -/
theorem NameResolver.ignoresPosition_standard (legacyNames : Bool) (ps : List Parameter) :
    (standard legacyNames).IgnoresPosition ps := by
  intro p _ i
  cases legacyNames <;> rfl

/-- A parameter without its position. -/
def Parameter.unplaced (p : Parameter) : Parameter :=
  { p with index := 0 }

namespace Declaration

/-- The parameters without their positions, each with its argument. -/
def rows (d : Declaration) (args : List Value) : List (Parameter × Value) :=
  d.parameters.map fun p => (p.unplaced, args.getD p.index.toNat .null)

/-- The names in some rows, each with its argument. -/
def rowNames (r : NameResolver) (rows : List (Parameter × Value)) : List (String × Value) :=
  rows.filterMap fun row => (r.nameOf? row.1).map fun name => (name, row.2)

theorem map_fst_rows (d : Declaration) (args : List Value) :
    (d.rows args).map Prod.fst = d.parameters.map Parameter.unplaced := by
  rw [rows, List.map_map]
  rfl

theorem map_fst_rowNames (r : NameResolver) (rows : List (Parameter × Value)) :
    (rowNames r rows).map Prod.fst = r.names (rows.map Prod.fst) := by
  rw [rowNames, NameResolver.names, List.map_filterMap, List.filterMap_map]
  refine congrArg (List.filterMap · rows) (funext fun row => ?_)
  rw [Option.map_map, Function.comp_apply]
  exact Option.map_id'

/-- The row of the parameter without a name, unless a body is declared. -/
def bodyRow (r : NameResolver) (hasBody : Bool) (rows : List (Parameter × Value)) :
    Option (Parameter × Value) :=
  if hasBody then none else rows.find? fun row => r.isUnnamed row.1

/-- What the arguments in some rows are used for. -/
def rowUses (r : NameResolver) (hasBody : Bool) (rows : List (Parameter × Value)) : CallUses where
  find name := (OrderedMap.ofList (rowNames r rows)).get? name
  url := (rows.find? fun row => row.1.isUrl).map Prod.snd
  body := (bodyRow r hasBody rows).map Prod.snd
  bodyType := ((bodyRow r hasBody rows).map fun row => row.1.type).getD .none

/-- The uses do not depend on the order of the rows. -/
theorem rowUses_perm {r : NameResolver} {hasBody : Bool} {rows rows' : List (Parameter × Value)}
    (h : rows.Perm rows') (hnames : (r.names (rows.map Prod.fst)).Nodup)
    (honce : UsesOnce r (rows.map Prod.fst)) :
    rowUses r hasBody rows = rowUses r hasBody rows' := by
  -- One row at most replaces the base URL, and one at most has no name.
  have hurl : rows.find? (fun row => row.1.isUrl) = rows'.find? fun row => row.1.isUrl := by
    refine find?_eq_of_perm h ?_
    have hcount := honce.url
    rwa [List.countP_map] at hcount
  have hunnamed : rows.find? (fun row => r.isUnnamed row.1) =
      rows'.find? fun row => r.isUnnamed row.1 := by
    refine find?_eq_of_perm h ?_
    have hcount := honce.unnamed
    rwa [List.countP_map] at hcount
  have hfind : ∀ name, (OrderedMap.ofList (rowNames r rows)).get? name =
      (OrderedMap.ofList (rowNames r rows')).get? name :=
    OrderedMap.get?_ofList_of_perm (h.filterMap _) (map_fst_rowNames r rows ▸ hnames)
  simp only [rowUses, bodyRow, hurl, hunnamed, hfind]

section

variable {d : Declaration} {r : NameResolver} (hr : r.IgnoresPosition d.parameters)
include hr

theorem nameOf?_unplaced {p : Parameter} (hp : p ∈ d.parameters) :
    r.nameOf? p.unplaced = r.nameOf? p := by
  rw [NameResolver.nameOf?, NameResolver.nameOf?, Parameter.unplaced, hr p hp 0]

theorem isUnnamed_unplaced {p : Parameter} (hp : p ∈ d.parameters) :
    r.isUnnamed p.unplaced = r.isUnnamed p := by
  rw [NameResolver.isUnnamed, NameResolver.isUnnamed, Parameter.unplaced, hr p hp 0]

theorem names_unplaced : r.names (d.parameters.map Parameter.unplaced) = r.names d.parameters := by
  rw [NameResolver.names, List.filterMap_map]
  exact List.filterMap_congr fun p hp => nameOf?_unplaced hr hp

theorem any_isUnnamed_unplaced :
    (d.parameters.map Parameter.unplaced).any r.isUnnamed = d.parameters.any r.isUnnamed := by
  rw [List.any_map, Bool.eq_iff_iff, List.any_eq_true, List.any_eq_true]
  refine exists_congr fun p => and_congr_right fun hp => ?_
  rw [Function.comp_apply, isUnnamed_unplaced hr hp]

theorem usesOnce_unplaced :
    UsesOnce r (d.parameters.map Parameter.unplaced) ↔ UsesOnce r d.parameters := by
  have hurl : (d.parameters.map Parameter.unplaced).countP (·.isUrl) =
      d.parameters.countP (·.isUrl) := List.countP_map
  have hunnamed : (d.parameters.map Parameter.unplaced).countP r.isUnnamed =
      d.parameters.countP r.isUnnamed := by
    rw [List.countP_map]
    exact List.countP_congr fun p hp => by rw [Function.comp_apply, isUnnamed_unplaced hr hp]
  constructor
  · exact fun h => ⟨hurl ▸ h.url, hunnamed ▸ h.unnamed⟩
  · exact fun h => ⟨hurl.symm ▸ h.url, hunnamed.symm ▸ h.unnamed⟩

/-- The names of a method get their arguments from the rows. -/
theorem namedArguments_method (h : d.DistinctPositions) (draft : Draft) (args : List Value) :
    (d.method r draft).namedArguments args = rowNames r (d.rows args) := by
  -- One parameter after the other, over all parameters.
  have key : ∀ ps : List Parameter,
      ((r.positions ps).flatMap fun e => e.2.map fun name => (e.1, name)).map
          (fun p => (p.2, args.getD p.1.toNat .null)) =
        ps.filterMap fun p =>
          (r.nameOf? p).map fun name => (name, args.getD p.index.toNat .null) := by
    intro ps
    induction ps with
    | nil => rfl
    | cons p ps ih =>
      rw [NameResolver.positions, List.filterMap_cons, List.filterMap_cons]
      cases r.nameOf? p with
      | none => exact ih
      | some name => exact congrArg (_ :: ·) ih
  rw [CompiledMethod.namedArguments, OrderedMap.pairs]
  show (((d.uses r draft).indexToName.entries.flatMap fun e => e.2.map fun v => (e.1, v)).map
    fun p => (p.2, args.getD p.1.toNat .null)) = _
  rw [entries_indexToName h, key, rowNames, rows, List.filterMap_map]
  refine List.filterMap_congr fun p hp => ?_
  rw [Function.comp_apply, nameOf?_unplaced hr hp]

/-- A method puts the arguments of its rows to their uses. -/
theorem binds_method (h : d.IndexedFromZero) (draft : Draft) {args : List Value}
    (hargs : d.parameters.length ≤ args.length) :
    (d.method r draft).Binds args (rowUses r draft.hasBody (d.rows args)) := by
  have hargument : ∀ p ∈ d.parameters,
      argumentAt args p.index = .ok (args.getD p.index.toNat .null) := by
    intro p hp
    obtain ⟨hzero, hlt⟩ := h.bounds p hp
    exact argumentAt_of_lt hzero (by omega)
  have hurl : (d.rows args).find? (fun row => row.1.isUrl) =
      (d.parameters.find? (·.isUrl)).map fun p =>
        (p.unplaced, args.getD p.index.toNat .null) := List.find?_map
  have hunnamed : (d.rows args).find? (fun row => r.isUnnamed row.1) =
      (d.parameters.find? r.isUnnamed).map fun p =>
        (p.unplaced, args.getD p.index.toNat .null) := by
    rw [rows, List.find?_map]
    refine congrArg (Option.map _) (List.find?_congr fun p hp => ?_)
    exact isUnnamed_unplaced hr hp
  refine ⟨⟨_, CompiledMethod.argumentsByName_eq (bounds_indexToName h r draft hargs), ?_⟩,
    ?_, ?_, ?_⟩
  · intro name
    rw [namedArguments_method hr h.distinct, rowUses]
  -- A method keeps the position of a parameter, and a row the argument that stands there.
  · show ((d.parameters.find? (·.isUrl)).map (·.index)).map (argumentAt args) =
      (((d.rows args).find? fun row => row.1.isUrl).map Prod.snd).map .ok
    rw [hurl]
    cases hfind : d.parameters.find? (·.isUrl) with
    | none => rfl
    | some p => exact congrArg some (hargument p (List.mem_of_find?_eq_some hfind))
  · show ((if draft.hasBody then none
        else (d.parameters.find? r.isUnnamed).map fun p => (p.index, p.type)).map Prod.fst).map
      (argumentAt args) = ((bodyRow r draft.hasBody (d.rows args)).map Prod.snd).map .ok
    rw [bodyRow, hunnamed]
    cases draft.hasBody with
    | true => rfl
    | false =>
      cases hfind : d.parameters.find? r.isUnnamed with
      | none => rfl
      | some p => exact congrArg some (hargument p (List.mem_of_find?_eq_some hfind))
  · show ((if draft.hasBody then none
        else (d.parameters.find? r.isUnnamed).map fun p => (p.index, p.type)).map Prod.snd).getD
      .none = ((bodyRow r draft.hasBody (d.rows args)).map fun row => row.1.type).getD .none
    rw [bodyRow, hunnamed]
    cases draft.hasBody with
    | true => rfl
    | false => cases d.parameters.find? r.isUnnamed <;> rfl

end

/-! ### Parameters in another order -/

/-- Every parameter has its position in the list of parameters. -/
def IndexedByPosition (d : Declaration) : Prop :=
  ∀ i : Fin d.parameters.length, (d.parameters.get i).index = i

instance (d : Declaration) : Decidable d.IndexedByPosition :=
  inferInstanceAs (Decidable (∀ i : Fin d.parameters.length, (d.parameters.get i).index = i))

/-- The declaration with its parameters in another order, each with its new position. -/
def reordered (d : Declaration) (σ : Equiv.Perm (Fin d.parameters.length)) : Declaration :=
  { d with parameters := List.ofFn fun i => { d.parameters.get (σ i) with index := i } }

theorem IndexedByPosition.fromZero {d : Declaration} (h : d.IndexedByPosition) :
    d.IndexedFromZero where
  distinct := by
    have hpositions : d.parameters.map (·.index) =
        List.ofFn fun i : Fin d.parameters.length => ((i : Nat) : Int) := by
      refine List.ext_getElem (by simp) fun i hi _ => ?_
      have hi : i < d.parameters.length := by simpa using hi
      simpa using h ⟨i, hi⟩
    rw [DistinctPositions, hpositions, List.nodup_ofFn]
    intro i j hij
    exact Fin.ext (Int.ofNat_inj.1 hij)
  bounds := by
    intro p hp
    obtain ⟨i, rfl⟩ := List.get_of_mem hp
    rw [h i]
    omega

section

variable {d : Declaration} (σ : Equiv.Perm (Fin d.parameters.length))

theorem indexedByPosition_reordered :
    (d.reordered σ).IndexedByPosition := by
  intro i
  have hparameters : (d.reordered σ).parameters =
      List.ofFn fun i => { d.parameters.get (σ i) with index := i } := rfl
  rw [List.get_of_eq hparameters, List.get_ofFn]
  rfl

/-- Reordering permutes the rows of every call. -/
theorem rows_reordered_perm (h : d.IndexedByPosition) (args : Fin d.parameters.length → Value) :
    ((d.reordered σ).rows (List.ofFn (args ∘ σ))).Perm (d.rows (List.ofFn args)) := by
  have hrows : d.rows (List.ofFn args) =
      List.ofFn fun i => ((d.parameters.get i).unplaced, args i) := by
    refine List.ext_get (by simp [rows]) fun i hi hi' => ?_
    have hi : i < d.parameters.length := by simpa [rows] using hi
    have hindex := h ⟨i, hi⟩
    simp only [List.get_eq_getElem] at hindex
    simp [rows, hindex, hi]
  have hrows' : (d.reordered σ).rows (List.ofFn (args ∘ σ)) =
      List.ofFn ((fun i => ((d.parameters.get i).unplaced, args i)) ∘ σ) := by
    refine List.ext_get (by simp [rows, reordered]) fun i hi hi' => ?_
    have hi : i < d.parameters.length := by simpa [rows, reordered] using hi
    simp [rows, reordered, Parameter.unplaced, hi]
  rw [hrows, hrows']
  exact Equiv.Perm.ofFn_comp_perm σ _

theorem length_reordered : (d.reordered σ).parameters.length = d.parameters.length :=
  List.length_ofFn

/-- Reordering permutes the parameters, their positions left out. -/
theorem unplaced_reordered_perm (h : d.IndexedByPosition) :
    ((d.reordered σ).parameters.map Parameter.unplaced).Perm
      (d.parameters.map Parameter.unplaced) := by
  have hrows := (rows_reordered_perm σ h fun _ => .null).map Prod.fst
  rwa [map_fst_rows, map_fst_rows] at hrows

/-- The request line, the headers and the body make the draft, whatever the parameters. -/
theorem draft_reordered {charset : String} {draft : Draft} (h : d.draft charset = .ok draft) :
    (d.reordered σ).draft charset = .ok draft := by
  obtain ⟨line, hline, hheaders, hset⟩ := draft_eq_ok h
  rw [draft_of_headers (d := d.reordered σ) hline hheaders]
  exact hset

section

variable {r : NameResolver} (hr : r.IgnoresPosition d.parameters)
include hr

theorem ignoresPosition_reordered : r.IgnoresPosition (d.reordered σ).parameters := by
  intro p hp i
  obtain ⟨j, rfl⟩ := List.mem_ofFn.1 hp
  have hmem : d.parameters.get (σ j) ∈ d.parameters := List.get_mem _ _
  exact (hr _ hmem i).trans (hr _ hmem j).symm

theorem names_reordered_perm (h : d.IndexedByPosition) :
    (r.names (d.reordered σ).parameters).Perm (r.names d.parameters) := by
  rw [← names_unplaced hr, ← names_unplaced (ignoresPosition_reordered σ hr)]
  exact (unplaced_reordered_perm σ h).filterMap _

theorem usesOnce_reordered (h : d.IndexedByPosition) (honce : UsesOnce r d.parameters) :
    UsesOnce r (d.reordered σ).parameters := by
  rw [← usesOnce_unplaced hr] at honce
  rw [← usesOnce_unplaced (ignoresPosition_reordered σ hr)]
  have hperm := unplaced_reordered_perm σ h
  exact ⟨hperm.countP_eq _ ▸ honce.url, hperm.countP_eq _ ▸ honce.unnamed⟩

/-- The check of the uses asks which names there are, and whether there is a body. -/
theorem checkBindings_reordered (h : d.IndexedByPosition) {draft : Draft}
    (hcheck : d.checkBindings draft.template (d.uses r draft) = .ok ()) :
    (d.reordered σ).checkBindings draft.template ((d.reordered σ).uses r draft) = .ok () := by
  have hdistinct := h.fromZero.distinct
  have hdistinct' := (indexedByPosition_reordered σ).fromZero.distinct
  have hnames := names_reordered_perm σ hr h
  rw [checkBindings_eq_ok, values_indexToName hdistinct] at hcheck
  rw [checkBindings_eq_ok, values_indexToName hdistinct']
  obtain ⟨hbound, hbody⟩ := hcheck
  refine ⟨fun name hname => hnames.mem_iff.2 (hbound name hname), fun hsome => ?_⟩
  have hunnamed : (d.reordered σ).parameters.any r.isUnnamed = d.parameters.any r.isUnnamed := by
    rw [← any_isUnnamed_unplaced hr, ← any_isUnnamed_unplaced (ignoresPosition_reordered σ hr)]
    exact (unplaced_reordered_perm σ h).any_eq
  have hform : d.formNames r draft.template = [] := by
    refine hbody ?_
    rw [isSome_body_uses, hunnamed] at hsome
    rw [isSome_body_uses]
    exact hsome
  show (d.reordered σ).formNames r draft.template = []
  rw [formNames_eq_nil_iff] at hform ⊢
  exact fun name hname => hform name (hnames.mem_iff.1 hname)

end

end

/-- Where the positions of the parameters and their names are different, the parameters may be
declared in another order: the method has the same template, and a call with the
arguments in that order gives the same request. A strategy that finds names must not read them
off the position, as the usual ones do not (`NameResolver.ignoresPosition_standard`). -/
theorem compile_reordered (d : Declaration) (settings : Settings) (r : NameResolver)
    (m : CompiledMethod) (hindices : d.IndexedByPosition) (hnames : (r.names d.parameters).Nodup)
    (hr : r.IgnoresPosition d.parameters) (hm : (d.compile settings r).result = .ok m)
    (σ : Equiv.Perm (Fin d.parameters.length)) :
    ∃ m', ((d.reordered σ).compile settings r).result = .ok m' ∧ m'.template = m.template ∧
      m'.bodyType = m.bodyType ∧
      ∀ (args : Fin d.parameters.length → Value) (options : CallOptions),
        m'.request (List.ofFn (args ∘ σ)) options =
            (m.request (List.ofFn args) options).mapError (CallError.withKey m'.configKey) ∧
          m'.encoderInput? (List.ofFn (args ∘ σ)) options =
            m.encoderInput? (List.ofFn args) options := by
  obtain ⟨draft, hdraft, honce, hcheck, rfl⟩ := compile_eq_ok.1 hm
  have hcompile : ((d.reordered σ).compile settings r).result =
      .ok ((d.reordered σ).method r draft) :=
    compile_eq_ok.2 ⟨draft, draft_reordered σ hdraft, usesOnce_reordered σ hr hindices honce,
      checkBindings_reordered σ hr hindices hcheck, rfl⟩
  -- The uses are those of the rows, and these are permuted.
  have hbinds : ∀ args : Fin d.parameters.length → Value,
      (d.method r draft).Binds (List.ofFn args)
          (rowUses r draft.hasBody (d.rows (List.ofFn args))) ∧
        ((d.reordered σ).method r draft).Binds (List.ofFn (args ∘ σ))
          (rowUses r draft.hasBody (d.rows (List.ofFn args))) := by
    intro args
    have hrows : rowUses r draft.hasBody (d.rows (List.ofFn args)) =
        rowUses r draft.hasBody ((d.reordered σ).rows (List.ofFn (args ∘ σ))) := by
      refine rowUses_perm (rows_reordered_perm σ hindices args).symm ?_ ?_
      · rwa [map_fst_rows, names_unplaced hr]
      · rwa [map_fst_rows, usesOnce_unplaced hr]
    refine ⟨binds_method hr hindices.fromZero draft (by simp), ?_⟩
    rw [hrows]
    exact binds_method (ignoresPosition_reordered σ hr)
      (indexedByPosition_reordered σ).fromZero draft (by simp [length_reordered])
  have htemplate : ((d.reordered σ).method r draft).template = (d.method r draft).template := rfl
  refine ⟨_, hcompile, htemplate, ?_, fun args options => ⟨?_, ?_⟩⟩
  · obtain ⟨h, h'⟩ := hbinds fun _ => .null
    exact h'.bodyType.trans h.bodyType.symm
  · obtain ⟨h, h'⟩ := hbinds args
    exact CompiledMethod.request_eq_of_binds htemplate h h' options
  · obtain ⟨h, h'⟩ := hbinds args
    exact CompiledMethod.encoderInput?_eq_of_binds htemplate h h' options

/-- An order in which the first parameter of the sample and the one that replaces the base URL
have changed places. -/
def sampleOrder : Equiv.Perm (Fin sample.parameters.length) :=
  Equiv.swap ⟨0, by decide⟩ ⟨3, by decide⟩

theorem compile_reordered_sample :
    ∃ m', ((sample.reordered sampleOrder).compile {} (.standard true)).result = .ok m' ∧
      m'.template = sampleMethod.template ∧
      m'.request [.text "http://host", .list [.int 1, .int 2], .text "tea", .text "a/b", .null] {} =
        .ok sampleSent := by
  obtain ⟨m', hm', htemplate, -, hcalls⟩ :=
    compile_reordered sample {} (.standard true) sampleMethod (by decide) (by decide)
      (NameResolver.ignoresPosition_standard true _) compile_sample sampleOrder
  obtain ⟨hrequest, -⟩ := hcalls (fun i => sampleCall.getD i .null) {}
  have hcall : (List.ofFn fun i : Fin sample.parameters.length => sampleCall.getD i .null) =
      sampleCall := rfl
  rw [hcall, request_sample] at hrequest
  exact ⟨m', hm', htemplate, hrequest⟩

end Declaration

end HttpInterface
