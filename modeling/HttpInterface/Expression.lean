import HttpInterface.Constant
import HttpInterface.Signature

/-!
# `HttpInterface.Expression`: expressions

The expressions that the text of a type may hold. Most of them are names with
arguments between brackets, but a text may hold any expression, and what it
stands for is then found by evaluating it.
-/

set_option autoImplicit false

namespace HttpInterface

/-- An operator between two values that are both evaluated. -/
inductive BinaryOperator where
  | bar
  | caret
  | ampersand
  | shiftLeft
  | shiftRight
  | plus
  | minus
  | times
  | matrixTimes
  | divide
  | floorDivide
  | remainder
  | power
  deriving DecidableEq, Repr

/-- The sign of an operator. -/
def BinaryOperator.sign : BinaryOperator → String
  | bar => "|"
  | caret => "^"
  | ampersand => "&"
  | shiftLeft => "<<"
  | shiftRight => ">>"
  | plus => "+"
  | minus => "-"
  | times => "*"
  | matrixTimes => "@"
  | divide => "/"
  | floorDivide => "//"
  | remainder => "%"
  | power => "**"

/-- An operator in front of one value. -/
inductive UnaryOperator where
  | plus
  | minus
  | complement
  deriving DecidableEq, Repr

/-- The sign of an operator. -/
def UnaryOperator.sign : UnaryOperator → String
  | plus => "+"
  | minus => "-"
  | complement => "~"

/-- A test on two values. -/
inductive Comparison where
  | equal
  | unequal
  | less
  | lessOrEqual
  | greater
  | greaterOrEqual
  | identical
  | distinct
  | elementOf
  | notElementOf
  deriving DecidableEq, Repr

/-- The sign of a comparison. -/
def Comparison.sign : Comparison → String
  | equal => "=="
  | unequal => "!="
  | less => "<"
  | lessOrEqual => "<="
  | greater => ">"
  | greaterOrEqual => ">="
  | identical => "is"
  | distinct => "is not"
  | elementOf => "in"
  | notElementOf => "not in"

/-- What a comprehension makes. -/
inductive ComprehensionKind where
  | list
  | set
  | dict
  | generator
  deriving DecidableEq, Repr

/-- The name of the function that runs a comprehension. -/
def ComprehensionKind.functionName : ComprehensionKind → String
  | list => "<listcomp>"
  | set => "<setcomp>"
  | dict => "<dictcomp>"
  | generator => "<genexpr>"

/-- How a value is turned into a text. -/
inductive TextForm where
  /-- The text that a reader sees. -/
  | plain
  /-- The text that shows what the value is. -/
  | shown
  /-- As `shown`, in ASCII alone. -/
  | ascii
  deriving DecidableEq, Repr

/-- An expression. -/
inductive Expression where
  | name (name : String)
  | constant (value : Constant)
  | tuple (items : List Expression)
  | list (items : List Expression)
  | set (items : List Expression)
  /-- The items are entries, or mappings whose entries are taken. -/
  | dict (items : List Expression)
  /-- All elements of a value. -/
  | spread (value : Expression)
  /-- All entries of a mapping. -/
  | spreadEntries (value : Expression)
  | entry (key value : Expression)
  | memberOf (owner : Expression) (name : String)
  | subscript (head index : Expression)
  /-- The three bounds of a slice. -/
  | slice (bounds : List Expression)
  | call (function : Expression) (args : List Expression)
  /-- An argument with a name. -/
  | named (name : String) (value : Expression)
  | unary (operator : UnaryOperator) (operand : Expression)
  | binary (operator : BinaryOperator) (left right : Expression)
  | negation (operand : Expression)
  | conjunction (left right : Expression)
  | disjunction (left right : Expression)
  | comparison (first : Expression) (links : List (Comparison × Expression))
  | choice (condition yes no : Expression)
  /-- A function without a name: its parameters, the values of those that have one, and
  its body. -/
  | function (parameters : List SignatureParameter) (defaults : List Expression)
    (body : Expression)
  /-- A value that gets a name. -/
  | assigned (name : String) (value : Expression)
  /-- Steps are loops and conditions, outermost first. -/
  | comprehension (kind : ComprehensionKind) (element : Expression) (steps : List Expression)
  | loop (target source : Expression)
  /-- A loop over what is there only later. -/
  | asyncLoop (target source : Expression)
  | condition (test : Expression)
  /-- A value that a function hands out before it goes on with what it is given then. -/
  | pause (value : Expression)
  /-- As `pause`, for the elements of a value one after the other. -/
  | pauseEach (value : Expression)
  /-- A text put together from texts and gaps. -/
  | formatted (pieces : List Expression)
  /-- A gap in a text: a value, how it is turned into a text, and the layout. -/
  | gap (value : Expression) (form : Option TextForm) (layout : Expression)

namespace Expression

mutual

/-- The names that get a value in an expression, those in functions without a name
excepted. -/
def assignedNames : Expression → List String
  | .assigned n e => n :: assignedNames e
  | .name _ | .constant _ => []
  | .tuple items | .list items | .set items | .dict items | .slice items | .formatted items
  | .function _ items _ => assignedNamesOf items
  | .spread e | .spreadEntries e | .memberOf e _ | .named _ e | .unary _ e | .negation e
  | .condition e | .pause e | .pauseEach e => assignedNames e
  | .entry a b | .subscript a b | .binary _ a b | .conjunction a b | .disjunction a b
  | .loop a b | .asyncLoop a b | .gap a _ b => assignedNames a ++ assignedNames b
  | .call e args => assignedNames e ++ assignedNamesOf args
  | .comparison e links => assignedNames e ++ assignedNamesOfLinks links
  | .choice a b c => assignedNames a ++ assignedNames b ++ assignedNames c
  | .comprehension _ e steps => assignedNames e ++ assignedNamesOf steps

/-- The names that get a value in expressions. -/
def assignedNamesOf : List Expression → List String
  | [] => []
  | e :: rest => assignedNames e ++ assignedNamesOf rest

/-- The names that get a value behind comparisons. -/
def assignedNamesOfLinks : List (Comparison × Expression) → List String
  | [] => []
  | (_, e) :: rest => assignedNames e ++ assignedNamesOfLinks rest

end

mutual

/-- The names that a target gives values to. -/
def targetNames : Expression → List String
  | .name n => [n]
  | .tuple items | .list items => targetNamesOf items
  | .spread e => targetNames e
  | _ => []

/-- The names that targets give values to. -/
def targetNamesOf : List Expression → List String
  | [] => []
  | e :: rest => targetNames e ++ targetNamesOf rest

end

/-- The names that the loops among steps give values to. -/
def loopNames (steps : List Expression) : List String :=
  steps.flatMap fun
    | .loop target _ | .asyncLoop target _ => targetNames target
    | _ => []

mutual

/-- A value is handed out in the course of an expression. What functions without a name hand
out does not count. -/
def pauses : Expression → Bool
  | .pause _ | .pauseEach _ => true
  | .name _ | .constant _ => false
  | .tuple items | .list items | .set items | .dict items | .slice items | .formatted items
  | .function _ items _ => pausesAny items
  | .spread e | .spreadEntries e | .memberOf e _ | .named _ e | .unary _ e | .negation e
  | .condition e | .assigned _ e => pauses e
  | .entry a b | .subscript a b | .binary _ a b | .conjunction a b | .disjunction a b
  | .loop a b | .asyncLoop a b | .gap a _ b => pauses a || pauses b
  | .call e args => pauses e || pausesAny args
  | .comparison e links => pauses e || pausesLink links
  | .choice a b c => pauses a || pauses b || pauses c
  | .comprehension _ e steps => pauses e || pausesAny steps

/-- A value is handed out in the course of some expressions. -/
def pausesAny : List Expression → Bool
  | [] => false
  | e :: rest => pauses e || pausesAny rest

/-- A value is handed out in the course of the values behind comparisons. -/
def pausesLink : List (Comparison × Expression) → Bool
  | [] => false
  | (_, e) :: rest => pauses e || pausesLink rest

end

end Expression

end HttpInterface
