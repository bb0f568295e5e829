import HttpInterface.Object

/-!
# `HttpInterface.Expression.Pause`: functions that hand values out

A function that hands values out is run up to the next such value. What is left to do is the
body in which a name stands for the value: the name gets what the function is given when it
goes on. Of a choice only the branch that is taken is left, and so is the right side of `and`
and `or`.
-/

set_option autoImplicit false

namespace HttpInterface

/-- The next value that is handed out, or what gives several of them, and what is left to do
then. -/
structure Pause where
  /-- The elements of the value are handed out. -/
  isEach : Bool
  operand : Expression
  rest : Expression

namespace Pause

/-- The same pause within a larger expression. -/
def within (p : Pause) (around : Expression → Expression) : Pause :=
  { p with rest := around p.rest }

mutual

/-- The next pause of an expression; `slot` is the name that stands for its value, and `test`
says whether an expression counts as true. -/
def next? (test : Expression → Evaluation Bool) (slot : String) :
    Expression → Evaluation (Option Pause)
  | .pause e => do
    match ← next? test slot e with
    | some p => pure (some (p.within .pause))
    | none => pure (some ⟨false, e, .name slot⟩)
  | .pauseEach e => do
    match ← next? test slot e with
    | some p => pure (some (p.within .pauseEach))
    | none => pure (some ⟨true, e, .name slot⟩)
  | .tuple items => do
    pure ((← nextAmong? test slot items).map fun (p, f) => p.within fun e => .tuple (f e))
  | .list items => do
    pure ((← nextAmong? test slot items).map fun (p, f) => p.within fun e => .list (f e))
  | .set items => do
    pure ((← nextAmong? test slot items).map fun (p, f) => p.within fun e => .set (f e))
  | .dict items => do
    pure ((← nextAmong? test slot items).map fun (p, f) => p.within fun e => .dict (f e))
  | .formatted items => do
    pure ((← nextAmong? test slot items).map fun (p, f) => p.within fun e => .formatted (f e))
  | .call head args => do
    match ← next? test slot head with
    | some p => pure (some (p.within fun e => .call e args))
    | none =>
      pure ((← nextAmong? test slot args).map fun (p, f) =>
        p.within fun e => .call head (f e))
  | .entry a b => do
    match ← next? test slot a with
    | some p => pure (some (p.within fun e => .entry e b))
    | none => pure ((← next? test slot b).map fun p => p.within fun e => .entry a e)
  | .subscript a b => do
    match ← next? test slot a with
    | some p => pure (some (p.within fun e => .subscript e b))
    | none => pure ((← next? test slot b).map fun p => p.within fun e => .subscript a e)
  | .binary operator a b => do
    match ← next? test slot a with
    | some p => pure (some (p.within fun e => .binary operator e b))
    | none => pure ((← next? test slot b).map fun p => p.within fun e => .binary operator a e)
  | .gap a form b => do
    match ← next? test slot a with
    | some p => pure (some (p.within fun e => .gap e form b))
    | none => pure ((← next? test slot b).map fun p => p.within fun e => .gap a form e)
  | .comparison first links => do
    pure ((← next? test slot first).map fun p => p.within fun e => .comparison e links)
  | .spread e => do pure ((← next? test slot e).map fun p => p.within .spread)
  | .spreadEntries e => do pure ((← next? test slot e).map fun p => p.within .spreadEntries)
  | .memberOf e n => do pure ((← next? test slot e).map fun p => p.within fun e => .memberOf e n)
  | .named n e => do pure ((← next? test slot e).map fun p => p.within (.named n))
  | .assigned n e => do pure ((← next? test slot e).map fun p => p.within (.assigned n))
  | .unary operator e => do pure ((← next? test slot e).map fun p => p.within (.unary operator))
  | .negation e => do pure ((← next? test slot e).map fun p => p.within .negation)
  | .choice c yes no => do
    match ← next? test slot c with
    | some p => pure (some (p.within fun e => .choice e yes no))
    | none =>
      if !yes.pauses && !no.pauses then pure none
      else if ← test c then next? test slot yes
      else next? test slot no
  | .conjunction a b => do
    match ← next? test slot a with
    | some p => pure (some (p.within fun e => .conjunction e b))
    | none => if b.pauses && (← test a) then next? test slot b else pure none
  | .disjunction a b => do
    match ← next? test slot a with
    | some p => pure (some (p.within fun e => .disjunction e b))
    | none => if b.pauses && !(← test a) then next? test slot b else pure none
  | _ => pure none

/-- The next pause of some expressions, and all of them with what is left of one. -/
def nextAmong? (test : Expression → Evaluation Bool) (slot : String) :
    List Expression → Evaluation (Option (Pause × (Expression → List Expression)))
  | [] => pure none
  | e :: rest => do
    match ← next? test slot e with
    | some p => pure (some (p, fun e => e :: rest))
    | none =>
      pure ((← nextAmong? test slot rest).map fun (p, f) => (p, fun inner => e :: f inner))

end

end Pause

end HttpInterface
