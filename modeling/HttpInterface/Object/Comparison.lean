import HttpInterface.Object.UrlMember
import HttpInterface.TypeExpr.Compare

/-!
# `HttpInterface.Object.Comparison`: tests on two values

Values are compared as they are at the moment of the test. Bytes are compared with bytes
that can change, views of a dictionary as sets, ranges by the numbers in them, and slices
by their bounds.
-/

set_option autoImplicit false

namespace HttpInterface.Evaluation

/-- What a value is compared as with values of its own sort. -/
inductive Likeness where
  | bytes (bs : Bytes)
  | set (items : List Object)
  | range (count : Nat) (first width : Int)
  | slice (bounds : List Object)

/-- What an object is compared as. Bytes that are seen in another value have no order. -/
def likeness? (test : Comparison) (o : Object) : Evaluation (Option Likeness) := do
  match o, ← cellOf? o with
  | .fixed (.constant (.bytes bs)), _ => pure (some (.bytes bs))
  | _, some (.byteArray bs) => pure (some (.bytes bs))
  | o, some (.memory _ _) =>
    if test = .equal || test = .unequal then do pure ((← bytesOf? o).map .bytes) else pure none
  | _, some (.set items _) => pure (some (.set items))
  | _, some (.view .values _) => pure none
  | _, some (.view kind place) => pure (some (.set (← viewItems kind place)))
  | _, some (.range start stop step) =>
    let count := rangeCount start stop step
    pure (some (.range count (if count = 0 then 0 else start) (if count < 2 then 1 else step)))
  | _, some (.slice start stop step) => pure (some (.slice [start, stop, step]))
  | _, _ => pure none

/-- The text of a URL, or that of the URL that a text is. -/
def urlForm? (o : Object) : Evaluation (Option String) := do
  match o.url?, o.text? with
  | some u, _ => pure (some u.text)
  | none, some s =>
    match Url.parse s with
    | .ok u => pure (some u.text)
    | .error e => raise "InvalidURL" e.message
  | none, none => pure none

/-- Two objects as they are compared. A URL is compared with texts as well. -/
def comparable (test : Comparison) (a b : Object) : Evaluation (TypeExpr × TypeExpr) := do
  if (test = .equal || test = .unequal) && (a.url?.isSome || b.url?.isSome) then
    if let (some s, some t) := (← urlForm? a, ← urlForm? b) then return (.text s, .text t)
  match ← likeness? test a, ← likeness? test b with
  | some (.bytes bs), some (.bytes cs) => pure (.constant (.bytes bs), .constant (.bytes cs))
  | some (.set items), some (.set others) =>
    pure (.set (← frozenAll items), .set (← frozenAll others))
  | some (.slice bounds), some (.slice others) =>
    pure (.tuple (← frozenAll bounds), .tuple (← frozenAll others))
  | some (.range n first width), some (.range m start step) =>
    if test = .equal || test = .unequal then
      let whole (i : Int) : TypeExpr := .constant (.int i)
      pure (.tuple [whole n, whole first, whole width], .tuple [whole m, whole start, whole step])
    else pure (← frozen a, ← frozen b)
  | _, _ => pure (← frozen a, ← frozen b)

/-- Both objects are equal. -/
def equal (a b : Object) : Evaluation Bool := do
  let (a, b) ← comparable .equal a b
  pure (a.same b)

/-- Something like bytes stands in bytes. -/
def isInBytes (o : Object) (bs : Bytes) : Evaluation Bool := do
  match ← bytesOf? o, o.int? with
  | some part, _ => pure (TypeExpr.occursIn part bs)
  | none, some i =>
    if 0 ≤ i && i < 256 then pure (bs.contains (UInt8.ofNat i.toNat))
    else valueError "byte must be in range(0, 256)"
  | none, none => typeError s!"a bytes-like object is required, not '{← kindName o}'"

/-- The number is one of a range. -/
def isInRange (i start stop step : Int) : Bool :=
  let isBetween := if 0 < step then start ≤ i && i < stop else stop < i && i ≤ start
  isBetween && (i - start) % step == 0

/-- One of the elements of an iterator is equal to an object; `fuel` bounds how many are
looked at. -/
def nextEquals (engine : Engine) (fuel : Nat) (it o : Object) : Evaluation Bool := do
  match fuel with
  | 0 => raise "MemoryError" ""
  | fuel + 1 =>
    match ← engine.next? it with
    | none => pure false
    | some next => if ← equal next o then pure true else nextEquals engine fuel it o

/-- An object is among the elements of another. -/
def isElement (engine : Engine) (o container : Object) : Evaluation Bool := do
  match container, ← cellOf? container with
  | .fixed (.text whole), _ =>
    match o.text? with
    | some part => pure (TypeExpr.occursIn part.toList whole.toList)
    | none => throw (.needsText (← kindName o))
  | .fixed (.constant (.bytes bs)), _ => isInBytes o bs
  | _, some (.byteArray bs) => isInBytes o bs
  | _, some (.set items _) =>
    if (← set? o).isNone then checkHashable o
    holds items o
  | _, some (.dict entries) => do
    checkHashable o
    holds (entries.map Prod.fst) o
  | _, some (.range start stop step) =>
    match o.number? with
    | some (.whole i) => pure (isInRange i start stop step)
    | some n =>
      match n with
      | .real x => pure (match Decimal.whole? x with
        | some i => isInRange i start stop step
        | none => false)
      | _ => pure false
    | none => pure false
  | _, _ =>
    match ← inside? container with
    | some (_, items) => holds items o
    | none =>
      match ← iterator? container with
      | some it => nextEquals engine maxElements it o
      | none => throw (.noElements (← kindName container))

/-- A test on two objects. -/
def compare (engine : Engine) (test : Comparison) (a b : Object) : Evaluation Bool := do
  if let some o ← compareSpecial? engine test a b then
    let holds ← truth engine o
    return if test = .notElementOf then !holds else holds
  if test = .unequal then
    if let some o ← compareSpecial? engine .equal a b then return !(← truth engine o)
  if test = .identical then return ← identical a b
  if test = .distinct then return !(← identical a b)
  let a ← plain a
  let b ← plain b
  match test with
  | .equal => equal a b
  | .unequal => do pure !(← equal a b)
  | .identical => identical a b
  | .distinct => do pure !(← identical a b)
  | .elementOf => isElement engine a b
  | .notElementOf => do pure !(← isElement engine a b)
  | test =>
    let (s, t) ← comparable test a b
    match s.compareInOrder test t with
    | .ok holds => pure holds
    | .error e => throw e

/-- The first object is less than the second. -/
def isLess (a b : Object) : Evaluation Bool := do
  let (a, b) ← comparable .less a b
  match a.compareInOrder .less b with
  | .ok holds => pure holds
  | .error e => throw e

end HttpInterface.Evaluation
