import HttpInterface.Proofs.Draft

/-!
# `HttpInterface.Proofs.Builder.InPlace`: a builder that is changed in place

A `Builder` is a value: a change gives another one, and where it fails there is none. A builder
that is shared is changed in place, field by field, and where an operation fails its state is
the one that the assignments before have left. `InPlace` is that builder: every operation is
the row of its checks and assignments, and the state outlives a failure.

`run_perform` shows that both are the same: an operation that succeeds leaves the changed builder,
and an operation that fails leaves the builder as it was.
-/

set_option autoImplicit false

namespace HttpInterface

/-- What a builder is asked for. -/
inductive BuilderCall where
  | change (c : Change)
  | snapshot
  | build
  deriving DecidableEq, Repr

/-- Steps of a builder that is changed in place. -/
abbrev InPlace := EStateM BuilderError Builder

namespace InPlace

/-- Assigns to fields of the draft. -/
def assign (f : Draft → Draft) : InPlace Unit :=
  modify fun b => { b with draft := f b.draft }

/-- Checks that the template was not handed out before. -/
def checkOpen (operation : Operation) : InPlace Unit := do
  if (← get).built then throw (.consumed operation)

def setMethod (method : String) : InPlace Unit := do
  checkOpen .setMethod
  assign fun d => { d with method := some method }

def addQuery (key : String) (value : Option String) : InPlace Unit := do
  checkOpen .addQuery
  assign fun d => { d with queries := d.queries.push key value }

def addHeader (name value : String) : InPlace Unit := do
  checkOpen .addHeader
  assign fun d => { d with headers := d.headers.push name value }

/-- Appends a path, then adds the entries of the query one after the other, each with its own
check. -/
def append (text : String) : InPlace Unit := do
  checkOpen .append
  let parsed := PathAndQuery.parse text
  assign fun d => { d with url := d.url ++ parsed.path }
  parsed.entries.forM fun e => addQuery e.1 e.2

/-- Sets a body. The body that is bytes is assigned only after it was encoded. -/
def setBody (text : String) : InPlace Unit := do
  checkOpen .setBody
  if Placeholder.occursIn text then
    assign fun d => { d with body := none }
    assign fun d => { d with bodyTemplate := some text }
    assign fun d => { d with headers := d.headers.erase Header.contentLength }
  else
    match Charset.encode (← get).draft.charset text.toList with
    | .error e => throw (.coding e)
    | .ok bytes =>
      assign fun d => { d with body := some bytes }
      assign fun d => { d with bodyTemplate := none }
      assign fun d => { d with headers := d.headers.insert Header.contentLength [lengthText bytes] }

def change : Change → InPlace Unit
  | .setMethod method => setMethod method
  | .append text => append text
  | .addQuery key value => addQuery key value
  | .addHeader name value => addHeader name value
  | .setBody text => setBody text

/-- Hands out the template. The builder is used up only after the template was made. -/
def build : InPlace Template := do
  checkOpen .build
  if ((← get).draft.method.getD "").isEmpty then throw .noMethod
  let template := (← get).snapshot
  modify fun b => { b with built := true }
  return template

/-- What a call gives: a template or nothing. -/
def perform : BuilderCall → InPlace (Option Template)
  | .change c => do
    change c
    return none
  | .snapshot => return some (← get).snapshot
  | .build => return some (← build)

/-! ### The same builder -/

variable {b : Builder}

/-- An open builder goes on behind the check, one that was used up does not. -/
theorem run_checkOpen {α : Type} (operation : Operation) (rest : InPlace α) (b : Builder) :
    (do checkOpen operation; rest).run b =
      if b.built then .error (.consumed operation) b else rest.run b := by
  obtain ⟨draft, built⟩ := b
  cases built <;> rfl

/-- Adding entries to an open builder adds all of them. -/
theorem run_forM_addQuery (entries : List QueryEntry) (h : b.built = false) :
    (entries.forM fun e => addQuery e.1 e.2).run b =
      .ok () { b with draft := { b.draft with queries := b.draft.queries.pushAll entries } } := by
  induction entries generalizing b with
  | nil => rfl
  | cons e rest ih =>
    have hfirst : (addQuery e.1 e.2).run b =
        .ok () { b with draft := { b.draft with queries := b.draft.queries.push e.1 e.2 } } := by
      rw [addQuery, run_checkOpen, if_neg (by simp [h])]
      rfl
    show (addQuery e.1 e.2 >>= fun _ => rest.forM fun e => addQuery e.1 e.2).run b = _
    rw [EStateM.run_bind, hfirst]
    exact ih h

/-- A change in place succeeds with the changed builder or leaves the builder as it was. -/
theorem run_change (c : Change) (b : Builder) :
    (change c).run b =
      match b.change c with
      | .ok b' => .ok () b'
      | .error e => .error e b := by
  cases hbuilt : b.built with
  | true =>
    have hrefused : b.change c = .error (.consumed c.operation) := by
      rw [Builder.change, if_pos hbuilt]
    rw [hrefused]
    -- Every operation begins with its check.
    cases c <;> exact (run_checkOpen _ _ b).trans (if_pos hbuilt)
  | false =>
    have hopen : ∀ {α : Type} (operation : Operation) (rest : InPlace α),
        (do checkOpen operation; rest).run b = rest.run b := fun operation rest =>
      (run_checkOpen operation rest b).trans (if_neg (by simp [hbuilt]))
    rw [Builder.change, if_neg (by simp [hbuilt])]
    cases c with
    | setMethod method => exact hopen _ _
    | addQuery key value => exact hopen _ _
    | addHeader name value => exact hopen _ _
    | append text =>
      refine (hopen _ _).trans ?_
      rw [Draft.change, Draft.append_eq]
      exact run_forM_addQuery (PathAndQuery.parse text).entries hbuilt
    | setBody text =>
      refine (hopen _ _).trans ?_
      rw [Draft.change, Draft.setBody]
      by_cases hslots : Placeholder.occursIn text = true
      · rw [if_pos hslots, if_pos hslots]
        rfl
      · rw [if_neg hslots, if_neg hslots]
        rw [EStateM.run_bind, EStateM.run_get]
        simp only
        cases Charset.encode b.draft.charset text.toList with
        | error e => rfl
        | ok bytes => rfl

/-- Building in place succeeds with the builder that is used up or leaves the builder as it
was. -/
theorem run_build (b : Builder) :
    build.run b =
      match b.build with
      | .ok (t, b') => .ok t b'
      | .error e => .error e b := by
  rw [build, run_checkOpen, Builder.build]
  cases b.built with
  | true => rfl
  | false =>
    simp only [Bool.false_eq_true, if_false]
    rw [EStateM.run_bind, EStateM.run_get]
    cases hmethod : (b.draft.method.getD "").isEmpty with
    | true =>
      simp only [hmethod, if_true]
      rfl
    | false =>
      simp only [hmethod, Bool.false_eq_true, if_false]
      rfl

end InPlace

/-- What a call gives beside the builder that it leaves. -/
def BuilderCall.answer : BuilderCall → Builder → Option Template
  | .change _, _ => none
  | .snapshot, b | .build, b => some b.snapshot

/-- The builder after a call. -/
def Builder.perform (b : Builder) : BuilderCall → Except BuilderError Builder
  | .change c => b.change c
  | .snapshot => .ok b
  | .build => b.build.map Prod.snd

/-- A call in place succeeds with the changed builder, or fails and leaves the builder as it
was. -/
theorem InPlace.run_perform (call : BuilderCall) (b : Builder) :
    (perform call).run b =
      match b.perform call with
      | .ok b' => .ok (call.answer b) b'
      | .error e => .error e b := by
  cases call with
  | snapshot => rfl
  | change c =>
    rw [perform, EStateM.run_bind, run_change, Builder.perform]
    cases b.change c with
    | ok b' => rfl
    | error e => rfl
  | build =>
    rw [perform, EStateM.run_bind, run_build, Builder.perform, Builder.build]
    -- The template that is handed out is the one before the builder is used up.
    cases b.built with
    | true => rfl
    | false =>
      cases (b.draft.method.getD "").isEmpty with
      | true => rfl
      | false => rfl

/-- The state that steps in place leave, whether they succeed or fail. -/
def InPlace.stateAfter {α : Type} (steps : InPlace α) (b : Builder) : Builder :=
  match steps.run b with
  | .ok _ b' => b'
  | .error _ b' => b'

end HttpInterface
