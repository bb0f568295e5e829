import HttpInterface.Expression.Fault
import HttpInterface.Expression.Pause
import HttpInterface.Expression.Statement
import HttpInterface.Predefined.Member
import HttpInterface.Predefined.ModuleFunction
import HttpInterface.Predefined.OtherClass

/-!
# `HttpInterface.Expression.Evaluate`: the values of expressions

The names of an expression are looked up in the scopes around it, inner ones first, then
among the names that were given a value outside of all functions, and then among those
that every text may use. Its parts are evaluated from left to right, except that the
condition of a choice comes first. Of `and`, `or` and a row of comparisons no more is
evaluated than decides.

A function is called and a comprehension run by an engine. Every call within a call takes
an engine that allows one call less, so that evaluation always ends.
-/

set_option autoImplicit false

namespace HttpInterface

namespace Evaluation

/-! ### Names -/

/-- The entries of the dictionary at a place. -/
def entriesAt (place : Nat) : Evaluation (List (Object × Object)) := do
  match ← cell? place with
  | some (.dict entries) => pure entries
  | _ => pure []

/-- What a name stands for outside of all functions. -/
def globalName? (name : String) : Evaluation (Option Object) := do
  let entries ← entriesAt (← get).globals
  let find (entries : List (Object × Object)) (name : String) : Option Object :=
    (entries.find? fun e => e.1.text? == some name).map Prod.snd
  match find entries name, find entries "__builtins__" with
  | some o, _ => pure (some o)
  | none, some (.stored place) => do pure (find (← entriesAt place) name)
  | none, some (.fixed (.other { kind := "module", .. })) | none, none =>
    if name = "__builtins__" then
      some <$> make (.dict (Predefined.predefinedNames.filterMap fun n =>
        (Predefined.predefined? n).map fun o => (.text n, o)))
    else pure (Predefined.predefined? name)
  | none, some o => typeError s!"'{← kindName o}' object is not subscriptable"

/-- What a name of a scope without a value says. -/
def unassigned {α : Type} (isInner : Bool) (name : String) : Evaluation α :=
  if isInner then
    raise "UnboundLocalError"
      s!"cannot access local variable '{name}' where it is not associated with a value"
  else
    raise "NameError" (s!"cannot access free variable '{name}' where it is not associated " ++
      "with a value in enclosing scope")

/-- What a name stands for in the scopes around it, if it is a name of one of them. -/
def scopedName? (isInner : Bool) (name : String) : List Nat → Evaluation (Option Object)
  | [] => pure none
  | place :: rest => do
    match ← cell? place with
    | some (.scope _ _ names) =>
      match names.lookup name with
      | some (some o) => pure (some o)
      | some none => unassigned isInner name
      | none => scopedName? false name rest
    | _ => scopedName? false name rest

/-- What a name stands for. -/
def lookUpName (scopes : List Nat) (name : String) : Evaluation Object := do
  match ← scopedName? true name scopes with
  | some o => pure o
  | none =>
    match ← globalName? name with
    | some o => pure o
    | none => throw (.undefinedName name)

/-- Gives a name of a scope a value. -/
def bindIn (place : Nat) (name : String) (o : Object) : Evaluation Unit := do
  match ← cell? place with
  | some (.scope isComprehension path names) =>
    let others := names.filter fun e => e.1 != name
    write place (.scope isComprehension path ((name, some o) :: others))
  | _ => pure ()

/-- Gives a name a value: in the function around it, or outside of all functions. -/
def bindName (name : String) (o : Object) : List Nat → Evaluation Unit
  | [] => do
    let place := (← get).globals
    let entries ← entriesAt place
    let isKnown := entries.any fun e => e.1.text? == some name
    let changed := entries.map fun e => if e.1.text? == some name then (e.1, o) else e
    write place (.dict (if isKnown then changed else entries ++ [(.text name, o)]))
  | place :: rest => do
    match ← cell? place with
    | some (.scope false _ _) => bindIn place name o
    | _ => bindName name o rest

/-- A name with those of the functions and comprehensions around it. -/
def pathOf (scopes : List Nat) (name : String) : Evaluation String := do
  match scopes with
  | [] => pure name
  | place :: _ =>
    match ← cell? place with
    | some (.scope _ path _) => pure s!"{path}.<locals>.{name}"
    | _ => pure name

/-- The place of the scope of a function or of a comprehension. -/
def makeScope (isComprehension : Bool) (path : String) (names : List (String × Option Object)) :
    Evaluation Nat := do
  match ← make (.scope isComprehension path names) with
  | .stored place => pure place
  | _ => pure 0

/-! ### Targets -/

mutual

/-- Gives the names of a target a value or its parts. `run` evaluates the expressions in
the target. -/
def assign (engine : Engine) (run : Expression → Evaluation Object) (scope : Nat) :
    Expression → Object → Evaluation Unit
  | .name n, o => bindIn scope n o
  | .tuple targets, o | .list targets, o => do
    let spreadAt := targets.findIdx? fun
      | .spread _ => true
      | _ => false
    assignAll engine run scope targets (← partsFor engine targets.length spreadAt o)
  | .spread target, o => assign engine run scope target o
  | .subscript head index, o => do setItem (← run head) (← run index) o
  | .memberOf owner n, o => do
    let _ ← Predefined.setMember (← run owner) n o
  | _, _ => pure ()

/-- Gives targets their values. -/
def assignAll (engine : Engine) (run : Expression → Evaluation Object) (scope : Nat) :
    List Expression → List Object → Evaluation Unit
  | target :: targets, o :: items => do
    assign engine run scope target o
    assignAll engine run scope targets items
  | _, _ => pure ()

end

/-! ### Comprehensions -/

/-- What follows when a loop has given its target a value. -/
inductive Progress where
  /-- A condition does not hold. -/
  | skipped
  /-- Another loop begins. -/
  | entered (loop : ActiveLoop)
  /-- All conditions hold, and there are no more loops. -/
  | reached

/-- Runs the steps within a loop up to the next loop. -/
def runSteps (engine : Engine) (run : Expression → Evaluation Object) :
    List Expression → Evaluation Progress
  | [] => pure .reached
  | .condition test :: rest => do
    if ← truth engine (← run test) then runSteps engine run rest else pure .skipped
  | .loop target source :: rest => do
    pure (.entered { source := ← iterator (← run source), target, inner := rest })
  | _ :: rest => runSteps engine run rest

/-- Runs a comprehension up to its next element; `fuel` bounds the rounds of its loops. -/
def advance (engine : Engine) (run : List Nat → Expression → Evaluation Object) (fuel : Nat)
    (place : Nat) (state : Generator) : Evaluation (Option Object) := do
  let keep (state : Generator) : Evaluation Unit :=
    write place (.iterator "generator" (.generator state))
  match fuel, state.loops with
  | 0, _ => raise "MemoryError" ""
  | _, [] =>
    write place (.iterator "generator" (.values []))
    pure none
  | fuel + 1, loop :: rest =>
    match ← engine.next? loop.source with
    | none => advance engine run fuel place { state with loops := rest }
    | some o =>
      assign engine (run state.scopes) (state.scopes.headD 0) loop.target o
      match ← runSteps engine (run state.scopes) loop.inner with
      | .skipped => advance engine run fuel place state
      | .entered inner => advance engine run fuel place { state with loops := inner :: state.loops }
      | .reached => do
        keep state
        some <$> run state.scopes state.element

/-- A comprehension that is to be run: its first source has been evaluated already. -/
def startGenerator (scopes : List Nat) (kind : ComprehensionKind) (element target : Expression)
    (source : Object) (steps inner : List Expression) : Evaluation Object := do
  let path ← pathOf scopes kind.functionName
  let scope ← makeScope true path ((Expression.loopNames steps).eraseDups.map fun n => (n, none))
  make (.iterator "generator" (.generator
    { path, scopes := scope :: scopes, element, loops := [{ source, target, inner }] }))

/-- The entry that an element of a comprehension of a dictionary is. -/
def entryOf : Object → Object × Object
  | .tuple [key, value] => (key, value)
  | o => (o, .none)

/-- The kind of the value that a display of constants is made into before it is run over. -/
def sourceKind (source : Expression) (o : Object) : Evaluation String := do
  let isConstant : Expression → Bool
    | .constant _ => true
    | _ => false
  match source with
  | .list items => if items.all isConstant then pure "tuple" else kindName o
  | .set items => if items.all isConstant then pure "frozenset" else kindName o
  | _ => kindName o

/-- What a comprehension makes of its elements. Each is put into a set or a dictionary before
the next one is made. -/
def collect (engine : Engine) (kind : ComprehensionKind) (generator : Object) :
    Evaluation Object := do
  if kind = .generator then return generator
  let check : Object → Evaluation Unit := match kind with
    | .set => checkHashable
    | .dict => fun o => checkHashable (entryOf o).1
    | _ => fun _ => pure ()
  let items ← drainWith engine check maxElements generator []
  match kind with
  | .set => makeSet items false
  | .dict => makeDict (items.map entryOf)
  | _ => makeList items

/-! ### Arguments -/

/-- How errors name what is called. -/
def calleeText (f : Object) : Evaluation String := do
  match f, ← cellOf? f with
  | .predefined name, _ => pure (name ++ "()")
  | .memberOfClass owner name, _ => pure (qualifiedName owner name ++ "()")
  | _, some (.bound _ owner name) => pure (qualifiedName owner name ++ "()")
  | .fixed (.cls c), _ => pure (TypeExpr.classPath c ++ "()")
  | _, some (.closure c) => pure (c.path ++ "()")
  | f, _ =>
    let t ← frozen f
    pure (if t.kindName = "function" then t.name ++ "()" else t.plainText)

/-- The values of the one value that stands for all arguments by position. -/
def spreadArguments (engine : Engine) (f o : Object) : Evaluation (List Object) := do
  match ← elements? engine o with
  | some items => pure items
  | none =>
    if refusesElements o then throw (.notIterable (← kindName o))
    typeError s!"{← calleeText f} argument after * must be an iterable, not {← kindName o}"

/-- Arguments by name with more of them behind. No two may have the same name. -/
def mergeNamed (f : Object) (named more : List (Object × Object)) :
    Evaluation (List (Object × Object)) :=
  more.foldlM (fun named e => do
    if (← findEntry? named e.1).isSome then
      match e.1.text? with
      | some name =>
        typeError s!"{← calleeText f} got multiple values for keyword argument '{name}'"
      | none => typeError "keywords must be strings"
    pure (named ++ [e])) named

/-- A dictionary of the names of the innermost function or comprehension, or of those outside
of all functions. -/
def localNames (scopes : List Nat) : Evaluation Object := do
  match scopes with
  | [] => pure (.stored (← get).globals)
  | place :: _ =>
    match ← cell? place with
    | some (.scope _ _ names) =>
      let known := names.filterMap fun e => e.2.map fun o => (Object.text e.1, o)
      make (.dict known)
    | _ => make (.dict [])

/-- The functions that know the names around the place where they are called. -/
def localFunctions : List String := ["eval", "exec", "locals", "vars", "dir"]

/-- A call with arguments by name, whose names have to be texts. Some functions are given the
names around the call. -/
def call (engine : Engine) (scopes : List Nat) (f : Object) (values : List Object)
    (named : List (Object × Object)) : Evaluation Object := do
  let texts := named.filterMap fun e => e.1.text?.map fun name => (name, e.2)
  if texts.length < named.length then
    if ← Predefined.isCallable f then typeError "keywords must be strings"
  let given : ArgumentList Object := { values, named := texts }
  match f with
  | .predefined name =>
    if !localFunctions.contains name || scopes.isEmpty || !texts.isEmpty then engine.call f given
    else
      let around ← localNames scopes
      match name, values with
      | "locals", [] | "vars", [] => pure around
      | "dir", [] => do
        let names := (← entriesOf around).filterMap fun e => e.1.text?
        makeList ((names.mergeSort fun a b => decide (a ≤ b)).map Object.text)
      | "eval", [_] | "exec", [_] | "eval", [_, .fixed .none] | "exec", [_, .fixed .none] =>
        engine.call f { given with values := values.take 1 ++ [.none, around] }
      | _, _ => engine.call f given
  | f => engine.call f given
where
  entriesOf : Object → Evaluation (List (Object × Object))
    | .stored place => entriesAt place
    | _ => pure []

/-- An item that stands for several. -/
def isSpreadItem : Expression → Bool
  | .spread _ => true
  | _ => false

/-- An argument that is given by position. -/
def isPositional : Expression → Bool
  | .named _ _ | .spreadEntries _ => false
  | _ => true

/-! ### Values -/

/-- What a comparison makes of two values: a truth value unless their classes decide it. -/
def compareFully (engine : Engine) (test : Comparison) (a b : Object) : Evaluation Object := do
  if test = .elementOf || test = .notElementOf then .bool <$> compare engine test a b
  else
    match ← compareSpecial? engine test a b with
    | some o => pure o
    | none => .bool <$> compare engine test a b

/-- What stands between brackets behind a value. A value that holds a dictionary may be asked
for what it does not have. -/
def itemOf (engine : Engine) (head index : Object) : Evaluation Object := do
  let isDict := (← entries? (← plain head)).isSome
  let index ←
    if isDict then plain index
    else do pure ((← special? engine index "__index__" []).getD (← plain index))
  if ← hasSpecial head "__missing__" then
    match ← attempt? "KeyError" (do subscript (← plain head) index) with
    | some o => pure o
    | none => pure ((← special? engine head "__missing__" [index]).getD .none)
  else subscript (← plain head) index

/-- An object as a text. -/
def textInForm (engine : Engine) (form : TextForm) (o : Object) : Evaluation String := do
  let names := match form with
    | .plain => ["__str__", "__repr__"]
    | _ => ["__repr__"]
  match ← names.findM? (hasSpecial o) with
  | none => inForm form o
  | some name =>
    match (← special? engine o name []).bind Object.text? with
    | some s => pure (if form = .ascii then Text.asciiText s else s)
    | none => typeError s!"{name} returned non-string"

/-- An object laid out as its class decides. -/
def layFully (engine : Engine) (layout : String) (o : Object) : Evaluation String := do
  match ← special? engine o "__format__" [.text layout] with
  | some answer =>
    match answer.text? with
    | some s => pure s
    | none => typeError s!"__format__ must return a str, not {← kindName answer}"
  | none =>
    if layout.isEmpty && (← cellOf? o) matches some (.instance _ _) then
      textInForm engine .plain o
    else layObject layout (← plain o)

/-- All expressions are constants. -/
def areConstants (items : List Expression) : Bool :=
  items.all fun
    | .constant _ => true
    | _ => false

mutual

/-- The value of an expression. -/
def evaluate (engine : Engine) (scopes : List Nat) : Expression → Evaluation Object
  | .name n => lookUpName scopes n
  | .constant c => pure (.fixed (.ofConstant c))
  | .tuple items => do pure (.tuple (← evaluateItems engine scopes items))
  | .list items => do makeList (← evaluateItems engine scopes items)
  | .set items => do
    let values ← evaluateMembers engine scopes false items
    if areConstants items && 3 ≤ items.length then makeWrittenSet values
    else makeSet values false
  | .dict items => do makeDict (← evaluateEntries engine scopes [] items)
  | .spread value | .spreadEntries value => evaluate engine scopes value
  | .entry key value => do
    let k ← evaluate engine scopes key
    let v ← evaluate engine scopes value
    pure (.tuple [k, v])
  | .memberOf owner n => do memberWith engine (← evaluate engine scopes owner) n
  | .subscript head index => do
    let h ← evaluate engine scopes head
    let i ← evaluate engine scopes index
    match ← itemSpecial? engine h i with
    | some o => pure o
    | none => itemOf engine h i
  | .slice bounds => do
    match ← evaluateItems engine scopes bounds with
    | start :: stop :: step :: _ => make (.slice start stop step)
    | _ => pure .none
  | .call head args => do
    let f ← evaluate engine scopes head
    match args.filter isPositional with
    | [.spread _] =>
      let given ← evaluateAlone engine scopes args
      let named ← evaluateNamed engine scopes f [] [] args
      let values ← spreadArguments engine f given
      call engine scopes f values named
    | _ =>
      let values ← evaluateArguments engine scopes args
      let named ← evaluateNamed engine scopes f [] [] args
      call engine scopes f values named
  | .named _ value => evaluate engine scopes value
  | .unary operator operand => do
    let o ← evaluate engine scopes operand
    match ← changeSpecial? engine operator o with
    | some changed => pure changed
    | none => change operator (← plain o)
  | .binary operator left right => do
    let l ← evaluate engine scopes left
    let r ← evaluate engine scopes right
    combine engine operator l r
  | .negation operand => do pure (.bool !(← truth engine (← evaluate engine scopes operand)))
  | .conjunction left right => do
    let l ← evaluate engine scopes left
    if ← truth engine l then evaluate engine scopes right else pure l
  | .disjunction left right => do
    let l ← evaluate engine scopes left
    if ← truth engine l then pure l else evaluate engine scopes right
  | .comparison first links => do
    evaluateLinks engine scopes (← evaluate engine scopes first) links
  | .choice test yes no => do
    if ← truth engine (← evaluate engine scopes test) then evaluate engine scopes yes
    else evaluate engine scopes no
  | .function parameters defaults body => do
    let values ← evaluateItems engine scopes defaults
    let optional := (parameters.filter fun p => p.isOptional && !p.kind.isVariadic).map
      SignatureParameter.name
    let path ← pathOf scopes "<lambda>"
    make (.closure { path, parameters, defaults := optional.zip values, body, scopes })
  | .assigned n value => do
    let o ← evaluate engine scopes value
    bindName n o scopes
    pure o
  | .comprehension kind element (.loop target source :: inner) => do
    let it ← iterator (← evaluate engine scopes source)
    if inner.any fun | .asyncLoop _ _ => true | _ => false then
      return ← make (.iterator "async_generator" (.values []))
    let generator ←
      startGenerator scopes kind element target it (.loop target source :: inner) inner
    collect engine kind generator
  | .comprehension _ _ (.asyncLoop _ source :: _) => do
    let o ← evaluate engine scopes source
    typeError (s!"'async for' requires an object with __aiter__ method, " ++
      s!"got {← sourceKind source o}")
  | .comprehension _ _ _ | .loop _ _ | .asyncLoop _ _ | .condition _ => pure .none
  | .pause value | .pauseEach value => evaluate engine scopes value
  | .formatted pieces => do
    pure (.text (String.join (← evaluatePieces engine scopes pieces)))
  | .gap value form layout => do
    let o ← evaluate engine scopes value
    let o ← match form with
      | some form => do pure (.text (← textInForm engine form o))
      | none => pure o
    let layout ← evaluate engine scopes layout
    pure (.text (← layFully engine (layout.text?.getD "") o))

/-- The values of items, some of which stand for all elements of a value. -/
def evaluateItems (engine : Engine) (scopes : List Nat) :
    List Expression → Evaluation (List Object)
  | [] => pure []
  | .spread value :: rest => do
    let items ← spreadElements engine (← evaluate engine scopes value)
    pure (items ++ (← evaluateItems engine scopes rest))
  | e :: rest => do
    let o ← evaluate engine scopes e
    pure (o :: (← evaluateItems engine scopes rest))

/-- The values of the items of a set. From the first item on that stands for several
(`isSpread`), each is put into the set before the next one is evaluated. -/
def evaluateMembers (engine : Engine) (scopes : List Nat) (isSpread : Bool) :
    List Expression → Evaluation (List Object)
  | [] => pure []
  | .spread value :: rest => do
    let items ← elements engine (← evaluate engine scopes value)
    items.forM checkHashable
    pure (items ++ (← evaluateMembers engine scopes true rest))
  | e :: rest => do
    let o ← evaluate engine scopes e
    if isSpread || rest.any isSpreadItem then checkHashable o
    pure (o :: (← evaluateMembers engine scopes isSpread rest))

/-- The entries of the items of a dictionary, behind those of the row of entries just
before. -/
def evaluateEntries (engine : Engine) (scopes : List Nat) (row : List (Object × Object)) :
    List Expression → Evaluation (List (Object × Object))
  | [] => pure row
  | .spreadEntries value :: rest => do
    row.forM fun e => checkHashable e.1
    let o ← evaluate engine scopes value
    match ← Predefined.mappingEntries? engine o with
    | some entries => do
      pure (row ++ entries ++ (← evaluateEntries engine scopes [] rest))
    | none => throw (.notMapping (← kindName o))
  | .entry key value :: rest => do
    let k ← evaluate engine scopes key
    let v ← evaluate engine scopes value
    evaluateEntries engine scopes (row ++ [(k, v)]) rest
  | _ :: rest => evaluateEntries engine scopes row rest

/-- The values of the arguments by position. -/
def evaluateArguments (engine : Engine) (scopes : List Nat) :
    List Expression → Evaluation (List Object)
  | [] => pure []
  | .spread value :: rest => do
    let items ← spreadElements engine (← evaluate engine scopes value)
    pure (items ++ (← evaluateArguments engine scopes rest))
  | .named _ _ :: rest | .spreadEntries _ :: rest => evaluateArguments engine scopes rest
  | e :: rest => do
    let o ← evaluate engine scopes e
    pure (o :: (← evaluateArguments engine scopes rest))

/-- The value that stands for all arguments by position. -/
def evaluateAlone (engine : Engine) (scopes : List Nat) : List Expression → Evaluation Object
  | [] => pure .none
  | .spread value :: _ => evaluate engine scopes value
  | _ :: rest => evaluateAlone engine scopes rest

/-- The values of the arguments by name: those known already, those of the row just before,
and the others. Rows are put together where a mapping stands for several. -/
def evaluateNamed (engine : Engine) (scopes : List Nat) (f : Object)
    (known row : List (Object × Object)) : List Expression → Evaluation (List (Object × Object))
  | [] => mergeNamed f known row
  | .named n value :: rest => do
    let o ← evaluate engine scopes value
    evaluateNamed engine scopes f known (row ++ [(.text n, o)]) rest
  | .spreadEntries value :: rest => do
    let known ← mergeNamed f known row
    let o ← evaluate engine scopes value
    match ← Predefined.mappingEntries? engine o with
    | none =>
      typeError s!"{← calleeText f} argument after ** must be a mapping, not {← kindName o}"
    | some entries => evaluateNamed engine scopes f (← mergeNamed f known entries) [] rest
  | _ :: rest => evaluateNamed engine scopes f known row rest

/-- The truth of comparisons in a row, the first of them with a value at its left. -/
def evaluateLinks (engine : Engine) (scopes : List Nat) (left : Object) :
    List (Comparison × Expression) → Evaluation Object
  | [] => pure (.bool true)
  | (test, e) :: rest => do
    let right ← evaluate engine scopes e
    let holds ← compareFully engine test left right
    if rest.isEmpty then pure holds
    else if ← truth engine holds then evaluateLinks engine scopes right rest
    else pure holds

/-- The texts of the pieces of a text. -/
def evaluatePieces (engine : Engine) (scopes : List Nat) :
    List Expression → Evaluation (List String)
  | [] => pure []
  | e :: rest => do
    let o ← evaluate engine scopes e
    pure (o.text?.getD "" :: (← evaluatePieces engine scopes rest))

end

/-! ### Calls -/

/-- What a call gives the parameters of a function. -/
def boundValue (defaults : List (String × Object)) (p : SignatureParameter) :
    Bound Object → Evaluation Object
  | .given o => pure o
  | .omitted => pure ((defaults.lookup p.name).getD .none)
  | .rest values => pure (.tuple values)
  | .restNamed entries => makeDict (entries.map fun e => (.text e.1, e.2))

/-- A call of a function that is written in a text. -/
def callClosure (engine : Engine) (f : Closure) (args : ArgumentList Object) :
    Evaluation Object := do
  match Signature.bind f.parameters args with
  | .error e => typeError (e.message f.path)
  | .ok bound =>
    let values ← bound.mapM fun e => do
      pure (e.1.name, some (← boundValue f.defaults e.1 e.2))
    let others := (f.body.assignedNames.filter fun n => !values.any fun e => e.1 == n).eraseDups
    let scope ← makeScope false f.path (values ++ others.map fun n => (n, none))
    let scopes := scope :: f.scopes
    if f.body.pauses then
      make (.iterator "generator" (.paused { path := f.path, scopes, body := f.body }))
    else evaluate engine scopes f.body

/-- A call of a function whose body does nothing. -/
def callWritten (name : String) (parameters : List SignatureParameter)
    (args : ArgumentList Object) : Evaluation Object :=
  match Signature.bind parameters args with
  | .ok _ => pure .none
  | .error e => typeError (e.message name)

/-! ### Expressions and statements that are given by their texts -/

/-- The text that `eval` or `exec` is given. -/
def sourceText (name : String) (o : Object) : Evaluation String := do
  match o.text?, ← bytesOf? o with
  | some s, _ => pure s
  | none, some bs => pure (String.ofList (Charset.Utf8.decode bs))
  | none, none => typeError s!"{name}() arg 1 must be a string, bytes or code object"

/-- Runs something with other names outside of all functions. -/
def withGlobals {α : Type} (globals : Object) (run : Evaluation α) : Evaluation α := do
  match globals with
  | .stored place =>
    let before := (← get).globals
    modify fun store => { store with globals := place }
    let result ← run
    modify fun store => { store with globals := before }
    pure result
  | _ => run

/-- Makes what is predefined known to a dictionary of names. -/
def addPredefined (globals : Object) : Evaluation Unit := do
  match globals, ← cellOf? globals with
  | .stored place, some (.dict entries) =>
    if !entries.any fun e => e.1.text? == some "__builtins__" then
      let entry := (Object.text "__builtins__", Predefined.moduleObject "builtins")
      write place (.dict (entries ++ [entry]))
  | _, _ => pure ()

/-- The scopes in which the names of a mapping are known. -/
def scopesOf (locals : Object) : Evaluation (List Nat) := do
  if locals.isNone then return []
  let isGlobal := match locals with
    | .stored place => do pure (place == (← get).globals)
    | _ => (pure false : Evaluation Bool)
  if ← isGlobal then return []
  match ← entries? locals with
  | some entries =>
    let names := entries.filterMap fun e => e.1.text?.map fun n => (n, some e.2)
    pure [← makeScope false "" names]
  | none => pure []

/-- Writes the names of a scope back into the mapping that they came from. -/
def writeBack (locals : Object) (scopes : List Nat) : Evaluation Unit := do
  match locals, scopes with
  | .stored place, scope :: _ =>
    match ← cell? place, ← cell? scope with
    | some (.dict entries), some (.scope _ _ names) =>
      let known := names.reverse.filterMap fun e => e.2.map fun o => (Object.text e.1, o)
      let changed ← known.foldlM (fun made e => setEntry made e.1 e.2) entries
      write place (.dict changed)
    | _, _ => pure ()
  | _, _ => pure ()

/-- Runs something with the names that `eval` or `exec` is given. -/
def withNames {α : Type} (name : String) (globals locals : Object)
    (run : List Nat → Evaluation α) : Evaluation α := do
  let isDict (o : Object) : Evaluation Bool := do pure ((← cellOf? o) matches some (.dict _))
  if !locals.isNone && (← entries? locals).isNone then
    if name = "exec" then
      typeError s!"locals must be a mapping or None, not {← kindName locals}"
    typeError "locals must be a mapping"
  if !globals.isNone && !(← isDict globals) then
    if name = "exec" then typeError s!"exec() globals must be a dict, not {← kindName globals}"
    typeError "globals must be a dict"
  let inside : Evaluation α := do
    let scopes ← scopesOf locals
    let result ← run scopes
    writeBack locals scopes
    pure result
  if globals.isNone then inside
  else
    addPredefined globals
    withGlobals globals inside

/-- A text that is no expression, or no row of statements. -/
def refuseText {α : Type} (s : String) : Evaluation α := do
  if '\x00' ∈ s.toList then valueError "source code string cannot contain null bytes"
  raise "SyntaxError" (Expression.faultOf s).message

/-- The value of an expression that is given by its text. -/
def evaluateText (engine : Engine) (args : List (Option Object)) : Evaluation Object := do
  let s ← sourceText "eval" (argument args 0)
  let s := String.ofList (s.toList.dropWhile fun c => c == ' ' || c == '\t')
  withNames "eval" (argument args 1) (argument args 2) fun scopes => do
    match Expression.read? s with
    | some e => evaluate engine scopes e
    | none => refuseText s

/-- Takes a target away. -/
def deleteTarget (engine : Engine) (scopes : List Nat) : Expression → Evaluation Unit
  | .name n => do
    let _ ← lookUpName scopes n
    match scopes with
    | [] =>
      let place := (← get).globals
      write place (.dict ((← entriesAt place).filter fun e => e.1.text? != some n))
    | place :: _ =>
      match ← cell? place with
      | some (.scope isComprehension path names) =>
        write place (.scope isComprehension path (names.filter fun e => e.1 != n))
      | _ => pure ()
  | .memberOf owner n => do
    let _ ← Predefined.deleteMember (← evaluate engine scopes owner) n
  | .subscript head index => do
    let h ← evaluate engine scopes head
    let i ← evaluate engine scopes index
    match h, ← cellOf? h with
    | .stored place, some (.dict _) => do
      let _ ← engine.call (← memberOf (.stored place) "pop") { values := [i] }
    | o, some (.list _) => do
      let _ ← engine.call (← memberOf o "pop") { values := [i] }
    | o, _ => typeError s!"'{← kindName o}' object doesn't support item deletion"
  | _ => pure ()

/-- Gives a target a value. -/
def assignTarget (engine : Engine) (scopes : List Nat) (target : Expression) (o : Object) :
    Evaluation Unit := do
  match scopes with
  | place :: _ => assign engine (evaluate engine scopes) place target o
  | [] =>
    let place ← makeScope false "" []
    assign engine (evaluate engine scopes) place target o
    match ← cell? place with
    | some (.scope _ _ names) => names.reverse.forM fun e =>
      match e.2 with
      | some o => bindName e.1 o []
      | none => pure ()
    | _ => pure ()

/-- Runs a statement. -/
def runStatement (engine : Engine) (scopes : List Nat) :
    Expression.Statement → Evaluation Unit
  | .pass => pure ()
  | .value e => do
    let _ ← evaluate engine scopes e
  | .assign targets value => do
    let o ← evaluate engine scopes value
    targets.forM fun target => assignTarget engine scopes target o
  | .change target operator value => do
    let before ← evaluate engine scopes target
    let o ← combine engine operator before (← evaluate engine scopes value)
    assignTarget engine scopes target o
  | .delete targets => targets.forM (deleteTarget engine scopes)
  | .importModule path name => do
    let isInner := name != String.ofList (path.toList.takeWhile (· != '.'))
    let module ← Predefined.importModule isInner (.text path)
    assignTarget engine scopes (.name name) module
  | .importNames path names => do
    let module ← Predefined.importModule true (.text path)
    names.forM fun (n, own) => do
      match ← attempt? "AttributeError" (memberOf module n) with
      | some o => assignTarget engine scopes (.name own) o
      | none => raise "ImportError" s!"cannot import name '{n}' from '{path}' (unknown location)"

/-- Runs the statements of a text. -/
def runText (engine : Engine) (args : List (Option Object)) : Evaluation Object := do
  let s ← sourceText "exec" (argument args 0)
  withNames "exec" (argument args 1) (argument args 2) fun scopes => do
    match Expression.Statement.readLines? s with
    | some statements => statements.forM (runStatement engine scopes)
    | none => refuseText s
  pure .none

/-- A call of a declared type. -/
def callType (engine : Engine) (t : TypeExpr) (args : ArgumentList Object) : Evaluation Object := do
  match t with
  | .cls c =>
    if c.package.isEmpty then Predefined.construct engine c.name args
    else
      match ← Predefined.constructOther? engine c args with
      | some o => pure o
      | none => Predefined.constructWritten engine c args
  | .other { kind := "NewType", .. } => pure (args.values.headD .none)
  | .noneType =>
    if !args.values.isEmpty || !args.named.isEmpty then
      typeError "NoneType takes no arguments"
    pure .none
  | .bare head =>
    throw (if t.isPlainForm then .makesNothing t.shown else .useClass head.name head.origin)
  | .applied head _ =>
    if head.package = "typing" then throw (.useClass head.name head.origin)
    if head.package.isEmpty then Predefined.construct engine head.name args
    else
      let c := originOf head
      let known ← knownClass? c
      let made ← Predefined.constructWritten engine ((known.map KnownClass.className).getD c) args
      match made, ← cellOf? made with
      | .stored place, some (.instance cls attributes) =>
        write place (.instance cls (attributes ++ [("__orig_class__", .fixed t)]))
      | _, _ => pure ()
      pure made
  | .union _ => throw (.makesNothing "typing.Union")
  | t => throw (.notCallable t.kindName)

/-- A call of an object. -/
def callObject (engine : Engine) (f : Object) (args : ArgumentList Object) : Evaluation Object := do
  match f, ← cellOf? f with
  | .predefined "eval", _ => do
    evaluateText engine (← (Predefined.functionCalling "eval").take "eval" "eval" args)
  | .predefined "exec", _ => do
    runText engine (← (Predefined.functionCalling "exec").take "exec" "exec" args)
  | .predefined name, _ => Predefined.callFunction engine name args
  | .moduleFunction kind module name, _ =>
    Predefined.callModuleFunction engine kind module name args
  | .memberOfClass owner name, _ =>
    match Predefined.findMember? owner name with
    | some (_, .attribute) => throw (.notCallable "getset_descriptor")
    | some (_, .field) => throw (.notCallable "member_descriptor")
    | _ => Predefined.callUnbound engine owner name args
  | .fixed t, _ => callType engine t args
  | _, some (.closure c) => callClosure engine c args
  | _, some (.written f) => callWritten f.name f.parameters args
  | _, some (.bound receiver owner name) => Predefined.callMember engine receiver owner name args
  | _, some (.boundFunction receiver inner) =>
    engine.call inner { args with values := receiver :: args.values }
  | _, some (.wrapped "staticmethod" inner) => engine.call inner args
  | cls, some (.madeClass _ _ _) => Predefined.constructMade engine cls args
  | _, some (.instance _ ((".function", f) :: (".given", .tuple given) :: (".named", named) :: _)) =>
    let known := ((← entries? named).getD []).filterMap fun e => e.1.text?.map fun n => (n, e.2)
    let others := known.filter fun e => (args.named.lookup e.1).isNone
    engine.call f { values := given ++ args.values, named := others ++ args.named }
  | o, some (.instance cls _) =>
    match ← inheritedMember? cls "__call__" with
    | some (_, method) => engine.call method { args with values := o :: args.values }
    | none => throw (.notCallable (← kindName o))
  | f, _ => throw (.notCallable (← kindName f))

/-- Goes on with a function that hands values out, up to the next one; `fuel` bounds how often
the elements of values are handed out. -/
def resume (engine : Engine) (place : Nat) (fuel : Nat) (state : PausedCall) :
    Evaluation (Option Object) := do
  let keep (state : PausedCall) : Evaluation Unit :=
    write place (.iterator "generator" (.paused { state with sent := .none }))
  let run := evaluate engine state.scopes
  let scope := state.scopes.headD 0
  match fuel with
  | 0 => raise "MemoryError" ""
  | fuel + 1 =>
    let found ← match state.inner? with
      | some it => engine.next? it
      | none => pure none
    if let some o := found then
      keep state
      return some o
    if let some slot := state.slot? then bindIn scope slot state.sent
    let slot := s!".{state.count}"
    match ← Pause.next? (fun e => do truth engine (← run e)) slot state.body with
    | none =>
      write place (.iterator "generator" (.values []))
      let _ ← run state.body
      pure none
    | some p =>
      let value ← run p.operand
      let next : PausedCall :=
        { state with
          body := p.rest
          slot? := some slot
          sent := .none
          inner? := none
          count := state.count + 1 }
      if p.isEach then resume engine place fuel { next with inner? := some (← iterator value) }
      else
        keep next
        pure (some value)

/-- The next element of an iterator. A comprehension may not end by taking an element
where there is none. -/
def nextElement (engine : Engine) (it : Object) : Evaluation (Option Object) := do
  match it, ← cellOf? it with
  | .stored place, some (.iterator kind (.generator state)) =>
    match ← attempt? "StopIteration"
        (advance engine (evaluate engine) maxElements place state) with
    | some found => pure found
    | none =>
      write place (.iterator kind (.values []))
      raise "RuntimeError" "generator raised StopIteration"
  | .stored place, some (.iterator _ (.paused state)) =>
    resume engine place maxElements state
  | o, some (.instance _ _) => do
    pure ((← attempt? "StopIteration" (special? engine o "__next__" [])).bind id)
  | .stored place, some (.iterator kind source) =>
    step engine (fun _ _ => pure none) place kind source
  | _, _ => pure none

end Evaluation

/-- How deep calls may stand in calls. -/
def maxCalls : Nat := 980

/-- An engine that allows so many calls within each other. -/
def Engine.ofFuel : Nat → Engine
  | 0 =>
    { call := fun _ _ => Evaluation.raise "RecursionError" "maximum recursion depth exceeded"
      next? := fun _ => Evaluation.raise "RecursionError" "maximum recursion depth exceeded" }
  | fuel + 1 =>
    { call := Evaluation.callObject (Engine.ofFuel fuel)
      next? := Evaluation.nextElement (Engine.ofFuel fuel) }

/-- The value of an expression outside of all functions. -/
def Expression.value (e : Expression) : Evaluation Object :=
  Evaluation.evaluate (Engine.ofFuel maxCalls) [] e

end HttpInterface
