import HttpInterface.Class.Describe
import HttpInterface.Proofs.Class.Names
import HttpInterface.Proofs.Compile.Consistency
import HttpInterface.Proofs.Record

/-!
# `HttpInterface.Proofs.Class.Function`: the declaration of one function

A function makes a declaration if its types are found, if none of its parameters behind the first
takes any number of arguments, and if its marks state texts (`FunctionDef.IsDescribable`).
`exists_declares` says so, and `FunctionDef.Declares` what the declaration says of the interface
and of the function.
-/

set_option autoImplicit false

namespace HttpInterface

/-- The value is a text. -/
def Value.IsText (v : Value) : Prop :=
  ∃ s, v = .text s

/-- A mark states nothing but texts. -/
def Decorator.StatesTexts : Decorator → Prop
  | .requestLine v | .body v => v.IsText
  | .headers vs => ∀ v ∈ vs, v.IsText

/-- The head of a function can be described. -/
structure FunctionDef.Resolves (f : FunctionDef) : Prop where
  /-- Its types are found, and each of them can be told. -/
  types : ∃ types returnType,
    Evaluation.runIn f.visibleNames f.lookUpTypes = .ok (types, returnType) ∧
      (returnType :: types).reduceOption.all TypeExpr.isTellable = true
  /-- Every parameter behind the one for the object takes one argument. -/
  parameters : ∀ p ∈ f.parameters.drop 1, p.kind.isVariadic = false

/-- A function from which a declaration can be made. -/
structure FunctionDef.IsDescribable (f : FunctionDef) : Prop extends f.Resolves where
  marks : ∀ d ∈ f.decorators, d.StatesTexts

/-- What a declaration says of the interface and of the function that it is made from. -/
structure FunctionDef.Declares (f : FunctionDef) (interface : String) (headers : List Value)
    (d : Declaration) : Prop where
  described : f.describe (.text interface) headers = .ok d
  declaringType : d.declaringType = interface
  methodName : d.methodName = f.name
  classHeaders : d.classHeaders.map .text = headers
  methodHeaders : d.methodHeaders.map .text = f.decorators.flatMap Decorator.headerValues

/-! ### Texts in a record -/

theorem exists_texts {vs : List Value} (h : ∀ v ∈ vs, v.IsText) :
    ∃ ss : List String, vs = ss.map .text := by
  induction vs with
  | nil => exact ⟨[], rfl⟩
  | cons v vs ih =>
    obtain ⟨s, rfl⟩ := h v List.mem_cons_self
    obtain ⟨ss, rfl⟩ := ih fun w hw => h w (List.mem_cons_of_mem _ hw)
    exact ⟨s :: ss, rfl⟩

/-- Fields that hold texts make a declaration. -/
theorem Declaration.ofFields_eq_ok (interface name : String) (line body : Option String)
    (classHeaders methodHeaders : List String) (parameters : List Parameter)
    (returnType : TypeExpr) :
    Declaration.ofFields
        [("declaring_type", .text interface), ("method_name", .text name),
         ("request_line", (line.map .text).getD .null),
         ("class_headers", .tuple (classHeaders.map .text)),
         ("method_headers", .tuple (methodHeaders.map .text)),
         ("body", (body.map .text).getD .null)] parameters returnType =
      .ok ⟨interface, name, line, classHeaders, methodHeaders, body, parameters, returnType⟩ := by
  rw [Declaration.ofFields, Record.required_eq_ok rfl (Record.text_text interface),
    Record.required_eq_ok rfl (Record.text_text name),
    Record.withDefault_eq_ok rfl (Record.optional_text line),
    Record.withDefault_eq_ok rfl (Record.texts_tuple classHeaders),
    Record.withDefault_eq_ok rfl (Record.texts_tuple methodHeaders),
    Record.withDefault_eq_ok rfl (Record.optional_text body)]
  rfl

/-! ### Marks -/

namespace Marks

/-- All that is left under a name is a text. -/
def StatesText (m : Marks) (name : String) : Prop :=
  ∀ v, m.get? name = some v → v.IsText

theorem statesText_ofDecorators {ds : List Decorator} (h : ∀ d ∈ ds, d.StatesTexts)
    (name : String) (hname : name ≠ headersName) : (ofDecorators ds).StatesText name := by
  induction ds with
  | nil => exact fun v hv => nomatch hv
  | cons d ds ih =>
    have hd := h d List.mem_cons_self
    have hrest := ih fun d' hd' => h d' (List.mem_cons_of_mem _ hd')
    intro v hv
    rw [ofDecorators, List.foldr_cons] at hv
    cases d with
    | requestLine w | body w =>
      rw [add, OrderedMap.get?_insert] at hv
      split at hv
      · obtain rfl := Option.some.inj hv
        exact hd
      · exact hrest v hv
    | headers ws =>
      rw [add, OrderedMap.get?_insert, if_neg hname] at hv
      exact hrest v hv

theorem exists_stated {m : Marks} {name : String} (h : m.StatesText name) :
    ∃ s : Option String, (m.get? name).getD .null = (s.map .text).getD .null := by
  cases hget : m.get? name with
  | none => exact ⟨none, rfl⟩
  | some v =>
    obtain ⟨s, rfl⟩ := h v hget
    exact ⟨some s, rfl⟩

end Marks

theorem Decorator.isText_of_mem_headerValues {ds : List Decorator} (h : ∀ d ∈ ds, d.StatesTexts) :
    ∀ v ∈ ds.flatMap Decorator.headerValues, v.IsText := by
  intro v hv
  obtain ⟨d, hd, hv⟩ := List.mem_flatMap.1 hv
  cases d with
  | headers vs => exact h _ hd v hv
  | requestLine | body => exact absurd hv List.not_mem_nil

/-! ### The declaration -/

/-- A parameter can be told if its declared type can. -/
theorem isTellable_describeParameter {index : Nat} {name : String} {declared : Option TypeExpr}
    (h : ∀ t, declared = some t → t.isTellable = true) :
    (describeParameter index name declared).type.isTellable = true := by
  cases declared with
  | none => rfl
  | some t =>
    have ht := h t rfl
    cases t with
    | annotated base markers => exact ht
    | _ => exact ht

namespace FunctionDef

variable {f : FunctionDef}

/-- A function from which a declaration can be made makes one, in any interface whose headers are
texts. -/
theorem IsDescribable.exists_declares (h : f.IsDescribable) (interface : String)
    {headers : List Value} (hheaders : ∀ v ∈ headers, v.IsText) :
    ∃ d, f.Declares interface headers d ∧ d.IsTellable := by
  obtain ⟨types, returnType, hrun, htellable⟩ := h.types
  -- All that goes into the record is texts.
  obtain ⟨classHeaders, rfl⟩ := exists_texts hheaders
  obtain ⟨methodHeaders, hmethod⟩ :=
    exists_texts (Decorator.isText_of_mem_headerValues h.marks)
  obtain ⟨line, hline⟩ := Marks.exists_stated
    (Marks.statesText_ofDecorators h.marks Marks.requestLineName (by decide))
  obtain ⟨body, hbody⟩ := Marks.exists_stated
    (Marks.statesText_ofDecorators h.marks Marks.bodyName (by decide))
  have hvariadic : ((f.parameters.zip types).drop 1).find? (fun e => e.1.kind.isVariadic) =
      none := by
    refine List.find?_eq_none.2 fun e he => ?_
    rw [List.zip, List.drop_zipWith] at he
    simp [h.parameters e.1 (List.of_mem_zip he).1]
  let parameters := ((f.parameters.zip types).drop 1).mapIdx fun i e =>
    describeParameter i e.1.normalName e.2
  have htold : ∀ p ∈ parameters, p.type.isTellable = true := by
    intro p hp
    obtain ⟨i, hi, rfl⟩ := List.mem_mapIdx.1 hp
    refine isTellable_describeParameter fun t ht => List.all_eq_true.1 htellable t ?_
    -- What is zipped with a parameter and not dropped is one of the types.
    have hmem : ((f.parameters.zip types).drop 1)[i] ∈ f.parameters.zip types :=
      List.mem_of_mem_drop (List.getElem_mem hi)
    rw [List.reduceOption_mem_iff, ← ht]
    exact List.mem_cons_of_mem _ (List.of_mem_zip hmem).2
  refine ⟨⟨interface, f.name, line, classHeaders, methodHeaders, body, parameters,
    returnType.getD .none⟩, ⟨?_, rfl, rfl, rfl, hmethod.symm⟩, htold⟩
  have hfields := Declaration.ofFields_eq_ok interface f.name line body classHeaders methodHeaders
    parameters (returnType.getD .none)
  rw [← hline, ← hbody, ← hmethod, ← Marks.headerList_ofDecorators] at hfields
  -- The types are found, no parameter is variadic, and the record is read.
  rw [describe, hrun]
  refine bind_eq_ok.2 ⟨(types, returnType), rfl, ?_⟩
  dsimp only
  rw [hvariadic]
  show (Checked.toExcept _).mapError DescribeError.issues = _
  rw [FunctionDef.marks, hfields]
  rfl

/-- Every declaration that such a function makes can be told. -/
theorem IsDescribable.isTellable (h : f.IsDescribable) {interface : String} {headers : List Value}
    {d : Declaration} (hheaders : ∀ v ∈ headers, v.IsText) (hd : f.Declares interface headers d) :
    d.IsTellable := by
  obtain ⟨d', hd', htold⟩ := h.exists_declares interface hheaders
  obtain rfl := Except.ok.inj (hd.described.symm.trans hd'.described)
  exact htold

end FunctionDef

end HttpInterface
