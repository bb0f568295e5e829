import HttpInterface.Class.Header
import HttpInterface.Proofs.Class.Describe
import HttpInterface.Proofs.Command
import Mathlib.Data.List.TakeWhile

/-!
# `HttpInterface.Proofs.Class.Compile`: from a row of classes to its methods

The methods of an interface stand in a map under composed keys, where one method could take the
place of another. It does not: a key tells the name of its method, whatever the types of the
parameters are called (`methodName_eq_of_configKey`), as no name has a parenthesis
(`FunctionDef.not_mem_name`). So declarations of functions with different names have different
keys (`nodup_configKeys`), and compiling them fills the map with one entry for each
(`exists_methods`).

`keepsAll_of_chain` is the whole way from the classes of a row to the map. `KeepsAll` says what is
kept on it, and what is told first if something is wrong. Two conditions are worth a look, and
`not_described_of_promise` shows that they are needed: the walk leaves out classes that say
that they belong to the hidden package, and a row is described only if no class writes the record
of its marks itself and if its marks state texts.
-/

set_option autoImplicit false

namespace HttpInterface

/-! ### Keys -/

/-- What stands in front of the first place of an element is settled by the whole. -/
theorem eq_of_append_cons_eq {α : Type} {a : α} {l l' rest rest' : List α} (h : a ∉ l)
    (h' : a ∉ l') (heq : l ++ a :: rest = l' ++ a :: rest') : l = l' := by
  induction l generalizing l' with
  | nil =>
    cases l' with
    | nil => rfl
    | cons b l' =>
      obtain ⟨rfl, -⟩ := List.cons.inj heq
      exact absurd List.mem_cons_self h'
  | cons b l ih =>
    cases l' with
    | nil =>
      obtain ⟨rfl, -⟩ := List.cons.inj heq
      exact absurd List.mem_cons_self h
    | cons c l' =>
      rw [List.cons_append, List.cons_append, List.cons.injEq] at heq
      obtain ⟨rfl, heq⟩ := heq
      rw [ih (fun hmem => h (List.mem_cons_of_mem b hmem))
        (fun hmem => h' (List.mem_cons_of_mem b hmem)) heq]

/-- The key of a method tells its name, whatever the types of its parameters are called. -/
theorem Declaration.methodName_eq_of_configKey {d d' : Declaration}
    (htype : d.declaringType = d'.declaringType) (h : '(' ∉ d.methodName.toList)
    (h' : '(' ∉ d'.methodName.toList) (hkey : d.configKey = d'.configKey) :
    d.methodName = d'.methodName := by
  have hchars := congrArg String.toList hkey
  simp only [configKey, String.toList_append, htype, List.append_assoc,
    List.append_cancel_left_eq] at hchars
  exact String.toList_injective (eq_of_append_cons_eq h h' hchars)

namespace Header

/-- A name that is well formed holds no sign. -/
theorem not_mem_of_nameProblem? {behind name : String} (h : nameProblem? behind name = none)
    {c : Char} (hspace : Text.isSpace c = false) (hword : isWordChar c = false)
    (hblank : Expression.isLineBlank c = false) : c ∉ name.toList := by
  have hrest : (parts name).2 = [] := by
    simp only [nameProblem?] at h
    split at h
    · exact nomatch h
    · split at h
      · next hempty => exact List.isEmpty_iff.1 hempty
      · exact nomatch h
  have hdrop : ∀ {p : Char → Bool} {cs : List Char}, p c = false → c ∈ cs → c ∈ cs.dropWhile p := by
    intro p cs hp hc
    rw [← List.takeWhile_append_dropWhile (p := p) (l := cs), List.mem_append] at hc
    rcases hc with hc | hc
    · exact nomatch hp.symm.trans (List.mem_takeWhile_imp hc)
    · exact hc
  -- The name is trimmed, then a word and blanks are taken off; the sign would still be there.
  intro hc
  have htrim : c ∈ Text.trimSpaces name.toList :=
    List.mem_reverse.2 (hdrop hspace (List.mem_reverse.2 (hdrop hspace hc)))
  have hmem : c ∈ (parts name).2 := hdrop hblank (hdrop hword htrim)
  rw [hrest] at hmem
  exact absurd hmem List.not_mem_nil

end Header

/-- The name of a function whose head is well formed has no parenthesis. -/
theorem FunctionDef.not_mem_name {f : FunctionDef} (h : f.checkHeader = .ok ()) :
    '(' ∉ f.name.toList := by
  rw [checkHeader] at h
  dsimp only at h
  split at h
  · exact nomatch h
  · split at h
    · exact nomatch h
    · next hnone =>
      have hproblem := Option.eq_none_iff_forall_ne_some.2 hnone
      simp only [Header.problem?, Option.or_eq_none_iff] at hproblem
      obtain ⟨⟨⟨-, hname⟩, -⟩, -⟩ := hproblem
      exact Header.not_mem_of_nameProblem? hname (by decide) (by decide) (by decide)

/-- Every function of a row is known under its own name, and no name has a parenthesis. -/
def Row.HasOwnNames (row : Row) : Prop :=
  ∀ e ∈ row.functions, e.2.name = e.1 ∧ '(' ∉ e.1.toList

/-- Functions whose heads are well formed only have to be known under their own names. -/
theorem Row.hasOwnNames_of_checkHeader {row : Row}
    (h : ∀ e ∈ row.functions, e.2.name = e.1 ∧ e.2.checkHeader = .ok ()) : row.HasOwnNames := by
  intro e he
  obtain ⟨hname, hhead⟩ := h e he
  exact ⟨hname, hname ▸ FunctionDef.not_mem_name hhead⟩

namespace ClassTable

variable {table : ClassTable} {chain : List DefinedClass} {c : DefinedClass} {row : Row}
  {declarations : List Declaration} {settings : Settings} {r : NameResolver}

/-- Declarations of functions with different names have different keys. -/
theorem nodup_configKeys {interface : String} {headers : List Value} (hnames : row.KeepsNames)
    (hown : row.HasOwnNames)
    (hall : List.Forall₂ (fun e d => e.2.Declares interface headers d) row.functions
      declarations) :
    (declarations.map Declaration.configKey).Nodup := by
  have hmethods : declarations.map Declaration.methodName = row.functions.map Prod.fst := by
    rw [← List.forall₂_eq_eq_eq, List.forall₂_map_left_iff, List.forall₂_map_right_iff]
    exact ((List.forall₂_and_left _ _).2 ⟨hown, hall⟩).flip.imp
      fun _ _ h => h.2.methodName.trans h.1.1
  have htypes : declarations.map Declaration.declaringType =
      row.functions.map fun _ => interface := by
    rw [← List.forall₂_eq_eq_eq, List.forall₂_map_left_iff, List.forall₂_map_right_iff]
    exact hall.flip.imp fun _ _ h => h.declaringType
  have htype : ∀ d ∈ declarations, d.declaringType = interface := by
    intro d hd
    obtain ⟨e, -, heq⟩ := List.mem_map.1 (htypes ▸ List.mem_map_of_mem hd)
    exact heq.symm
  have hplain : ∀ d ∈ declarations, '(' ∉ d.methodName.toList := by
    intro d hd
    obtain ⟨e, he, heq⟩ := List.mem_map.1 (hmethods ▸ List.mem_map_of_mem hd)
    exact heq ▸ (hown e he).2
  -- All keys begin with the interface, so equal keys have equal names behind it.
  have hnodup := Row.keepsNames_iff.1 hnames
  rw [← hmethods] at hnodup
  refine List.pairwise_map.2 ((List.pairwise_map.1 hnodup).imp_of_mem fun hd hd' hne hkey => ?_)
  exact hne (Declaration.methodName_eq_of_configKey ((htype _ hd).trans (htype _ hd').symm)
    (hplain _ hd) (hplain _ hd') hkey)

/-- The method of one more declaration stands under its key. -/
theorem addMethod_of_compile {compiled : OrderedMap String CompiledMethod} {d : Declaration}
    {m : CompiledMethod} (htold : d.IsTellable) (h : (d.compile settings r).result = .ok m) :
    addMethod settings r compiled d = .ok (compiled.insert d.configKey m) := by
  obtain ⟨draft, -, -, -, rfl⟩ := Declaration.compile_eq_ok.1 h
  rw [addMethod, Declaration.result_compileUnderKey, if_pos htold.hasTellableKey, h]
  rfl

/-- Declarations with different keys give one method each, in their order. -/
theorem exists_methods (hkeys : (declarations.map Declaration.configKey).Nodup)
    (htold : ∀ d ∈ declarations, d.IsTellable)
    (hall : ∀ d ∈ declarations, ∃ m, (d.compile settings r).result = .ok m) :
    ∃ methods, declarations.foldlM (addMethod settings r) .empty = .ok methods ∧
      List.Forall₂ (fun d e => e.1 = d.configKey ∧ (d.compile settings r).result = .ok e.2)
        declarations methods.entries := by
  refine exists_foldlM_insert (R := fun d m => (d.compile settings r).result = .ok m)
    (fun d hd compiled _ => ?_) hkeys
  obtain ⟨m, hm⟩ := hall d hd
  exact ⟨m, hm, addMethod_of_compile (htold d hd) hm⟩

/-- What describing and compiling an interface comes to, for the row of its classes: nothing is
lost, repeated or mixed up. -/
structure KeepsAll (table : ClassTable) (c : DefinedClass) (row : Row) (settings : Settings)
    (r : NameResolver) : Prop where
  /-- If two classes define a public function of one name, the first function that has such a
  name for the second time is told. -/
  overridden : ¬row.KeepsNames → ∃ front e back d, row.functions = front ++ e :: back ∧
    (front.map Prod.fst).Nodup ∧ e.1 ∈ front.map Prod.fst ∧
    e.2.Declares c.definition.name row.headers d ∧
    table.describe c = .error (.defect ⟨.overriddenMethod, some d.configKey⟩)
  /-- Else every public function makes one declaration, class by class, and each declaration has
  the headers of all classes. -/
  described : row.KeepsNames → ∃ declarations, table.describe c = .ok declarations ∧
    List.Forall₂ (fun e d => e.2.Declares c.definition.name row.headers d) row.functions
      declarations
  /-- What is wrong with the interface is told before anything is compiled. -/
  undescribed : ∀ e, table.describe c = .error e →
    (table.compile c settings r).result = .error (.describe e)
  /-- Every declaration gives one entry, in order: under its key, the method that it is compiled to
  alone. Or else the first declaration that is not compiled decides. -/
  compiled : ∀ declarations, table.describe c = .ok declarations →
    (∃ methods, (table.compile c settings r).result = .ok methods ∧
      List.Forall₂ (fun d e => e.1 = d.configKey ∧ (d.compile settings r).result = .ok e.2)
        declarations methods.entries) ∨
    ∃ d e, Declaration.FirstFailure declarations settings r d e ∧
      (table.compile c settings r).result = .error (.compile e)

/-- An interface that is not described is not compiled. -/
theorem result_compile_of_describe_error {e : DescribeError} (h : table.describe c = .error e) :
    (table.compile c settings r).result = .error (.describe e) := by
  simp only [compile, h, Journaled.result_bind, Journaled.result_ofExcept]
  rfl

/-- An interface whose classes stand in a row keeps all that they declare. -/
theorem keepsAll_of_chain (table : ClassTable) (chain : List DefinedClass) (c : DefinedClass)
    (settings : Settings) (r : NameResolver) (hbuilt : Built table) (hchain : Chain table chain c)
    (hplain : table.isParameterized c = false) (hrow : (walked chain).IsDescribable)
    (hown : (walked chain).HasOwnNames) : table.KeepsAll c (walked chain) settings r where
  overridden := describe_overridden hbuilt.sound hchain hplain hrow
  described := exists_describe hbuilt.sound hchain hplain hrow
  undescribed _ h := result_compile_of_describe_error h
  compiled declarations hdescribe := by
    -- A row that repeats a name is not described.
    have hnames : (walked chain).KeepsNames := by
      by_contra hrepeated
      obtain ⟨_, _, _, _, -, -, -, -, herror⟩ :=
        describe_overridden hbuilt.sound hchain hplain hrow hrepeated
      exact nomatch hdescribe.symm.trans herror
    obtain ⟨declarations', hdescribe', hall⟩ :=
      exists_describe hbuilt.sound hchain hplain hrow hnames
    obtain rfl := Except.ok.inj (hdescribe.symm.trans hdescribe')
    -- The functions can be described, so no key fails before its declaration is compiled.
    have htold := hrow.isTellable hall
    rcases compile_cases settings r hdescribe with ⟨_, -, hcompiled⟩ | hfailed | ⟨huntold, -⟩
    · obtain ⟨methods, hfold, hmethods⟩ :=
        exists_methods (nodup_configKeys hnames hown hall) htold hcompiled
      exact Or.inl ⟨methods, (result_compile_of_describe hdescribe).trans hfold, hmethods⟩
    · exact Or.inr hfailed
    · exact absurd huntold (Declaration.not_firstUntold htold)

/-! ### Two classes in a row -/

/-- A function of the class of all pets. -/
def listPets : FunctionDef where
  name := "list"
  decorators := [.requestLine (.text "GET /pets")]
  parameters := [{ name := "self" }]

/-- A function of the class of cats. -/
def strokeCat : FunctionDef where
  name := "stroke"
  decorators := [.requestLine (.text "PUT /cats/{id}"), .headers [.text "X-Hand: left"]]
  parameters := [{ name := "self" },
    { name := "id", type := some (.annotated (.cls (.ofBuiltin "int")) [.param "id"]) }]

/-- The class of all pets, with two marks for headers. -/
def petsDef : ClassDef where
  name := "Pets"
  decorators := [.headers [.text "Accept: text/plain"], .headers [.text "X-Trace: on"]]
  members := [("list", .function listPets)]

/-- The class of cats. -/
def catsDef : ClassDef where
  name := "Cats"
  bases := [.named "Pets"]
  decorators := [.headers [.text "X-Kind: cat"]]
  members := [("stroke", .function strokeCat)]

/-- A class without type variables, put on others that make no places. -/
def plainClass (d : ClassDef) (index : Nat) (bases ancestors : List Ancestor) : DefinedClass where
  definition := d
  index := index
  bases := bases
  ancestors := .defined index :: ancestors
  typeParameters := none
  namespaceMap :=
    if d.decorators.isEmpty then namespaceOf d.members
    else (namespaceOf d.members).insert marksName (.value (Marks.ofDecorators d.decorators).toValue)
  layout := { hasTable := true, hasWeakPlace := true }

/-- The class of all pets once it is defined. -/
def pets : DefinedClass := plainClass petsDef 0 [.object] [.object]

/-- The class of cats once it is defined. -/
def cats : DefinedClass := plainClass catsDef 1 [.defined 0] [.defined 0, .object]

/-- The table of both classes. -/
def zoo : ClassTable where
  package := "app"
  classes := [pets, cats]

/-- A class is defined on the bases that are found for it, if nothing stands in the way. -/
theorem define_plainClass_of_merge {table : ClassTable} {d : ClassDef}
    (resolved order : List Ancestor) (hbases : table.resolveBases d.bases = .ok resolved)
    (hforms : d.bases.any Base.isForm = false)
    (hreserve : table.reserve d (basesOr resolved) (namespaceOf d.members) =
      .ok ({ hasTable := true, hasWeakPlace := true }, namespaceOf d.members))
    (hnul : d.name.contains '\x00' = false) (hcheck : checkMembers (namespaceOf d.members) = .ok ())
    (honce : firstRepeated? (basesOr resolved) = none)
    (hmerge : Linearization.merge ((basesOr resolved).map table.ancestorsOf ++ [basesOr resolved]) =
      .ok order)
    (htell : table.tellAncestors d (namespaceOf d.members) (basesOr resolved) order = .ok none)
    (hmarks : d.decorators.reverse.foldlM mark (namespaceOf d.members) =
      .ok (plainClass d table.classes.length (basesOr resolved) order).namespaceMap) :
    table.define d =
      .ok (table.add (plainClass d table.classes.length (basesOr resolved) order)) := by
  have horder : table.linearize (basesOr resolved) = .ok order := by
    rw [linearize, hmerge]
  refine define_eq_ok.2 ⟨resolved, _, _, order, none, _, hbases, hreserve, hnul, hcheck, honce,
    horder, htell, hmarks, ?_⟩
  rw [assemble, hforms]
  rfl

/-- A class without bases of its own is defined if nothing stands in the way. -/
theorem define_plainClass {d : ClassDef} (hbases : d.bases = [])
    (hreserve : reserve { package := "app" } d [.object] (namespaceOf d.members) =
      .ok ((plainClass d 0 [.object] [.object]).layout, namespaceOf d.members))
    (hnul : d.name.contains '\x00' = false) (hcheck : checkMembers (namespaceOf d.members) = .ok ())
    (htell : tellAncestors { package := "app" } d (namespaceOf d.members) [.object] [.object] =
      .ok none)
    (hmarks : d.decorators.reverse.foldlM mark (namespaceOf d.members) =
      .ok (plainClass d 0 [.object] [.object]).namespaceMap) :
    define { package := "app" } d =
      .ok { package := "app", classes := [plainClass d 0 [.object] [.object]] } :=
  define_plainClass_of_merge [] [.object] (by rw [hbases]; rfl) (by rw [hbases]; rfl) hreserve hnul
    hcheck rfl (by decide +kernel) htell hmarks

theorem built_zoo : Built zoo := by
  have hpets : define { package := "app" } petsDef = .ok { package := "app", classes := [pets] } :=
    define_plainClass rfl rfl (by simp [petsDef]) rfl rfl rfl
  have hcats : define { package := "app", classes := [pets] } catsDef = .ok zoo :=
    define_plainClass_of_merge [.defined 0] [.defined 0, .object] rfl rfl rfl
      (by simp [catsDef]) rfl rfl (by decide +kernel) rfl rfl
  exact ((Built.start "app").define hpets).define hcats

theorem isDescribable_listPets : listPets.IsDescribable where
  types := ⟨[none], none, rfl, rfl⟩
  parameters := by simp [listPets]
  marks := by simp [listPets, Decorator.StatesTexts, Value.IsText]

theorem isDescribable_strokeCat : strokeCat.IsDescribable where
  types := ⟨[none, some (.annotated (.cls (.ofBuiltin "int")) [.param "id"])], none, rfl, rfl⟩
  parameters := by decide
  marks := by simp [strokeCat, Decorator.StatesTexts, Value.IsText]

theorem leavesRecord_pets : pets.LeavesRecord where
  member := rfl
  place _ _ h := nomatch (show some (Member.value _) = some (Member.place _ _) from h)

theorem leavesRecord_cats : cats.LeavesRecord where
  member := rfl
  place _ _ h := nomatch (show some (Member.value _) = some (Member.place _ _) from h)

theorem isDescribable_zoo : (walked [pets, cats]).IsDescribable where
  records := by
    have hrow : walked [pets, cats] = [pets, cats] := rfl
    simp [hrow, leavesRecord_pets, leavesRecord_cats]
  headers := by
    have hheaders : (walked [pets, cats]).headers =
      [.text "Accept: text/plain", .text "X-Trace: on", .text "X-Kind: cat"] := rfl
    simp [hheaders, Value.IsText]
  functions := by
    have hfunctions : (walked [pets, cats]).functions =
      [("list", listPets), ("stroke", strokeCat)] := rfl
    simp [hfunctions, isDescribable_listPets, isDescribable_strokeCat]

/-- The interface of cats keeps the methods of all pets and of cats, in this order. -/
theorem keepsAll_zoo :
    Built zoo ∧ Chain zoo [pets, cats] cats ∧ zoo.isParameterized cats = false ∧
      (walked [pets, cats]).IsDescribable ∧ (walked [pets, cats]).HasOwnNames ∧
      (walked [pets, cats]).KeepsNames ∧
      zoo.KeepsAll cats (walked [pets, cats]) {} (.standard true) ∧
      ∃ methods, (zoo.compile cats {} (.standard true)).result = .ok methods ∧
        methods.keys = ["Cats#list()", "Cats#stroke(int)"] := by
  have hchain : Chain zoo [pets, cats] cats := .derived (.root rfl (Or.inl rfl)) rfl rfl
  have hown : (walked [pets, cats]).HasOwnNames := by
    intro e he
    have hfunctions : (walked [pets, cats]).functions =
      [("list", listPets), ("stroke", strokeCat)] := rfl
    rw [hfunctions] at he
    simp only [List.mem_cons, List.not_mem_nil, or_false] at he
    rcases he with rfl | rfl <;> exact ⟨rfl, by decide⟩
  refine ⟨built_zoo, hchain, rfl, isDescribable_zoo, hown, ?_,
    keepsAll_of_chain zoo [pets, cats] cats {} (.standard true) built_zoo hchain rfl
      isDescribable_zoo hown, _, rfl, rfl⟩
  rw [Row.keepsNames_iff]
  decide

/-! ### Classes that are not walked through, or cannot be described -/

/-- A function whose request line is some value. -/
def readWith (line : Value) : FunctionDef where
  name := "a"
  decorators := [.requestLine line]
  parameters := [{ name := "self" }]

/-- A class alone, with a function and other members. -/
def loneDef (line : Value) (others : List (String × Member)) : ClassDef where
  name := "A"
  members := ("a", .function (readWith line)) :: others

/-- The class says that it belongs to the hidden package. -/
def hiddenDef : ClassDef :=
  loneDef (.text "GET /a") [("__module__", .value (.text hiddenPackage))]

/-- The class writes the record of its marks itself. -/
def recordedDef : ClassDef :=
  loneDef (.text "GET /a") [(marksName, .value (.int 5))]

/-- A mark states what is no text. -/
def numberedDef : ClassDef :=
  loneDef (.int 5) []

/-- A class alone in its table. -/
def lone (d : ClassDef) : DefinedClass := plainClass d 0 [.object] [.object]

/-- The table of a class alone. -/
def loneTable (d : ClassDef) : ClassTable where
  package := "app"
  classes := [lone d]

/-- A class is a row with one public function, which has its own name and whose head can be
described. -/
structure PromisesOne (d : ClassDef) : Prop where
  built : Built (loneTable d)
  chain : Chain (loneTable d) [lone d] (lone d)
  isPlain : (loneTable d).isParameterized (lone d) = false
  one : ∃ f, Row.functions [lone d] = [("a", f)] ∧ f.name = "a" ∧ f.Resolves

theorem resolves_readWith (line : Value) : (readWith line).Resolves where
  types := ⟨[none], none, rfl, rfl⟩
  parameters := by simp [readWith]

/-- A class of the hidden package makes no declaration. A class with a record of its own, or with a
mark that states no text, is not described at all. -/
theorem not_described_of_promise :
    (PromisesOne hiddenDef ∧ (loneTable hiddenDef).describe (lone hiddenDef) = .ok []) ∧
      (PromisesOne recordedDef ∧ (loneTable recordedDef).describe (lone recordedDef) =
        .error (.type (.noMember "int" "get"))) ∧
      (PromisesOne numberedDef ∧ (loneTable numberedDef).describe (lone numberedDef) =
        .error (.issues [⟨["request_line"], .notText⟩])) := by
  have hpromise : ∀ {d : ClassDef} {line : Value},
      define { package := "app" } d = .ok (loneTable d) → (lone d).ownBases = [] →
      (loneTable d).isParameterized (lone d) = false →
      Row.functions [lone d] = [("a", readWith line)] → PromisesOne d :=
    fun hdefine hbases hplain hone =>
      ⟨(Built.start "app").define hdefine, .root rfl (Or.inl hbases), hplain,
        _, hone, rfl, resolves_readWith _⟩
  refine ⟨⟨hpromise (define_plainClass rfl rfl ?_ rfl rfl rfl) rfl rfl rfl, rfl⟩,
    ⟨hpromise (define_plainClass rfl rfl ?_ rfl rfl rfl) rfl rfl rfl, rfl⟩,
    ⟨hpromise (define_plainClass rfl rfl ?_ rfl rfl rfl) rfl rfl rfl, rfl⟩⟩
  · simp [hiddenDef, loneDef]
  · simp [recordedDef, loneDef]
  · simp [numberedDef, loneDef]

end ClassTable

end HttpInterface
