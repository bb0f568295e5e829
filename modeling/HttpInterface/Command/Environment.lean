import HttpInterface.Command.Bindings
import HttpInterface.OrderedMap
import HttpInterface.Text.LowerCase
import HttpInterface.Variable

/-!
# `HttpInterface.Command.Environment`: variables from two places

A variable has the value that the file of the working directory binds it to,
else the value that the environment has. Of several bindings of one name the
last counts, also if it binds the name to no value.

The value in the file may mention variables as `${NAME}`, or with a value of
their own as `${NAME:-value}`. They stand for what is bound so far, before what
the environment has. A variable of the environment can say that the file is to be
left out.
-/

set_option autoImplicit false

namespace HttpInterface.Command

/-- The variables of the environment, and the text of the file if there is
one. -/
structure Environment where
  entries : List Variable
  file : Option String := none

namespace Environment

/-- The value that the environment has for a name. -/
def entryOf? (e : Environment) (name : String) : Option String :=
  (e.entries.find? fun v => v.name == name).map Variable.value

/-! ### Mentioned variables -/

/-- A variable that a value mentions. -/
structure Mention where
  name : String
  default : Option String
  deriving DecidableEq, Repr

/-- The variable mentioned at the start of a text, and what follows it. -/
def readMention? : List Char → Option (Mention × List Char)
  | '$' :: '\x7b' :: rest =>
    let inName (c : Char) : Bool := c != '\x7d' && c != ':'
    let name := String.ofList (rest.takeWhile inName)
    match rest.dropWhile inName with
    | '\x7d' :: behind => some (⟨name, none⟩, behind)
    | ':' :: '-' :: more =>
      let default := String.ofList (more.takeWhile (· ≠ '\x7d'))
      match more.dropWhile (· ≠ '\x7d') with
      | _ :: behind => some (⟨name, some default⟩, behind)
      | [] => none
    | _ => none
  | _ => none

/-- A value with every mentioned variable replaced. -/
def replaceMentions (value : Mention → String) (cs : List Char) : List Char :=
  match cs with
  | [] => []
  | c :: rest =>
    match readMention? (c :: rest) with
    | some (mention, behind) =>
      if _h : behind.length ≤ rest.length then
        (value mention).toList ++ replaceMentions value behind
      else c :: rest
    | none => c :: replaceMentions value rest
termination_by cs.length
decreasing_by
  · exact Nat.lt_succ_of_le _h
  · exact Nat.lt_succ_self _

/-! ### The file -/

/-- What a name is bound to. -/
abbrev Bound := OrderedMap String (Option String)

/-- What a mentioned variable stands for. A name bound to no value is empty. -/
def mentioned (e : Environment) (bound : Bound) (m : Mention) : String :=
  match bound.get? m.name with
  | some value => value.getD ""
  | none => (e.entryOf? m.name).getD (m.default.getD "")

/-- The bindings after one more statement. -/
def bind (e : Environment) (bound : Bound) : Statement → Bound
  | .binding name (some value) =>
    bound.insert name
      (some (String.ofList (replaceMentions (e.mentioned bound) value.toList)))
  | .binding name none => bound.insert name none
  | _ => bound

/-- The variable that says whether the file is left out. -/
def disablingVariable : String := "PYTHON_DOTENV_DISABLED"

/-- The words that say so, in folded case. -/
def affirmativeWords : List String := ["1", "true", "t", "yes", "y"]

/-- The file is left out. -/
def leavesOutFile (e : Environment) : Bool :=
  (e.entryOf? disablingVariable).any fun value =>
    affirmativeWords.contains (Text.folded value)

/-- The statements of the file, with the numbers of their lines. -/
def statements (e : Environment) : List (Statement × Nat) :=
  if e.leavesOutFile then [] else (e.file.map statementsOf).getD []

/-- What the file binds. -/
def bindings (e : Environment) : Bound :=
  e.statements.foldl (fun bound s => e.bind bound s.1) .empty

/-- The variables that the file sets: names bound to no value set none. -/
def fileVariables (e : Environment) : List Variable :=
  e.bindings.entries.filterMap fun (name, value) => value.map fun value => ⟨name, value⟩

/-- The lines at which the file is malformed. -/
def malformedLines (e : Environment) : List Nat :=
  (e.statements.filter fun s => s.1 = .malformed).map Prod.snd

/-- The value of a variable. -/
def get? (e : Environment) (name : String) : Option String :=
  ((e.bindings.get? name).getD none).or (e.entryOf? name)

end Environment

end HttpInterface.Command
