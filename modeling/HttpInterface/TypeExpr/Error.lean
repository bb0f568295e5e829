import HttpInterface.Charset.Utf8
import HttpInterface.Expression
import HttpInterface.TypeExpr

/-!
# `HttpInterface.TypeExpr.Error`: why there is no such type

Types are put together from others, and the text of a type is read and evaluated.
Both can go wrong, and the causes are the same: a text may hold whatever a
declaration may state directly.
-/

set_option autoImplicit false

namespace HttpInterface

/-- Where only a type may stand. -/
inductive TypePlace where
  /-- What a text stands for. -/
  | reference
  /-- An argument of a generic form. -/
  | argument
  /-- A member of a choice. -/
  | member
  /-- The type of an optional value. -/
  | optional
  /-- A type with markers. -/
  | marked
  /-- An element of a tuple. -/
  | element
  /-- The result of a function. -/
  | result
  /-- One of the parameters that stand in front of others. -/
  | concatenated
  /-- The only argument of a form; `demand` is what the form says of several. -/
  | sole (form demand : String)
  deriving DecidableEq, Repr

/-- What is asked for in a place. -/
def TypePlace.demand : TypePlace → String
  | reference => "Forward references must evaluate to types."
  | argument => "Parameters to generic types must be types."
  | member => "Union[arg, ...]: each arg must be a type."
  | optional => "typing.Optional requires a single type."
  | marked => "Annotated[t, ...]: t must be a type."
  | element => "Tuple[t0, t1, ...]: each t must be a type."
  | result => "Callable[args, result]: result must be a type."
  | concatenated => "Concatenate[arg, ...]: each arg must be a type."
  | sole form demand => s!"typing.{form} {demand}"

/-- Why an expression stands for no type. Values are given by their texts, and
`kind` is the class of a value. -/
inductive TypeExprError where
  /-- The text is no expression. -/
  | noExpression (text : String)
  | emptyText
  /-- The expression is nested too deep to be read. -/
  | tooManyLevels
  /-- The expression is nested too deep to be looked at. -/
  | tooDeep
  | nulInText
  /-- A number in a text has too many digits to be told. -/
  | tooManyDigits
  /-- A name is not in scope. -/
  | undefinedName (name : String)
  /-- A class has no such member. -/
  | noClassMember (owner member : String)
  /-- A value has no such member. -/
  | noMember (kind member : String)
  /-- A generic form has no such member. -/
  | noFormMember (member : String)
  /-- A class takes no arguments. -/
  | notSubscriptable (name : String)
  /-- A value takes no arguments. -/
  | kindNotSubscriptable (kind : String)
  /-- A type has all its arguments already. -/
  | noMoreArguments (shown : String)
  /-- A generic form has too many or too few arguments; some classes say that more
  would be admitted. -/
  | argumentCount (shown : String) (given expected : Nat) (atLeast : Bool)
  /-- A generic form that is no type without arguments. -/
  | plainForm (shown : String)
  /-- A form that is not admitted where a type may stand. -/
  | barredForm (shown : String)
  /-- A choice of no types. -/
  | noChoice
  /-- A tuple stands in the place of a type. -/
  | noType (place : TypePlace) (shown : String)
  /-- A type without markers is to be marked. -/
  | unmarked
  /-- Members of a choice have to be comparable at once. -/
  | unhashable (kind : String)
  /-- No such operation between two values. -/
  | operands (operator left right : String)
  /-- No such operation on a value. -/
  | operand (operator kind : String)
  /-- Only sequences of one kind are joined. -/
  | notJoinable (kind other : String)
  /-- A sequence is repeated as often as a whole number says. -/
  | notCount (kind : String)
  /-- Values are in no order. -/
  | unordered (comparison left right : String)
  /-- A value has no elements. -/
  | notIterable (kind : String)
  /-- A value has no elements that could be taken. -/
  | notSpreadable (kind : String)
  /-- A value has no elements among which another could be. -/
  | noElements (kind : String)
  /-- A value has no entries. -/
  | notMapping (kind : String)
  /-- Only a text can be in a text. -/
  | needsText (kind : String)
  | notCallable (kind : String)
  /-- A form of a container cannot be used to make one. -/
  | useClass (form origin : String)
  /-- A form makes no values. -/
  | makesNothing (shown : String)
  /-- The type that admits anything makes no values. -/
  | anyMakesNothing
  /-- A number is made of other things. -/
  | noNumber (name kind : String)
  /-- A class makes its values of nothing else. -/
  | takesNothing (name : String)
  /-- A class makes a value of at most one other. -/
  | takesOne (name : String) (given : Nat)
  /-- The class of a value is asked for without one value. -/
  | badTypeCall
  /-- A dictionary has no such key. -/
  | missingKey (shown : String)
  /-- A position is not in a sequence. -/
  | outOfRange (kind : String)
  /-- A bound of a slice is no position. -/
  | badBound
  | zeroStep
  /-- A sequence has positions only. -/
  | noPosition (kind index : String)
  | division (message : String)
  /-- What a predefined function or a member of a value refuses, by the class of the error
  and its message. -/
  | raised (className message : String)
  deriving DecidableEq, Repr

/-- The beginning of a text, as far as messages show it. -/
def TypeExprError.cut (text : String) : String :=
  String.ofList (text.toList.take 100)

/-- The beginning of a name that fills at most so many bytes of UTF-8; a replacement
character stands for one that is cut in two. -/
def TypeExprError.clipped (limit : Nat) (name : String) : String :=
  String.ofList (Charset.Utf8.decode ((Charset.Utf8.encode name.toList).take limit))

/-- The message of an error. -/
def TypeExprError.message : TypeExprError → String
  | noExpression text => "Forward reference must be an expression -- got " ++ Text.quoted text
  | emptyText => "string index out of range"
  | tooManyLevels => ""
  | tooDeep => "maximum recursion depth exceeded during compilation"
  | nulInText => "source code string cannot contain null bytes"
  | tooManyDigits => Text.tooManyDigitsMessage
  | undefinedName name => s!"name '{clipped 200 name}' is not defined"
  | noClassMember owner member => s!"type object '{clipped 50 owner}' has no attribute '{member}'"
  | noMember kind member => s!"'{clipped 50 kind}' object has no attribute '{member}'"
  | noFormMember member => member
  | notSubscriptable name => s!"type '{clipped 200 name}' is not subscriptable"
  | kindNotSubscriptable kind => s!"'{clipped 200 kind}' object is not subscriptable"
  | noMoreArguments shown => s!"{shown} is not a generic class"
  | argumentCount shown given expected atLeast =>
    let amount := if expected < given then "many" else "few"
    let bound := if atLeast && given < expected then "at least " else ""
    s!"Too {amount} arguments for {shown}; actual {given}, expected {bound}{expected}"
  | plainForm shown => s!"Plain {shown} is not valid as type argument"
  | barredForm shown => s!"{shown} is not valid as type argument"
  | noChoice => "Cannot take a Union of no types."
  | noType place shown => place.demand ++ " Got " ++ cut shown ++ "."
  | unmarked =>
    "Annotated[...] should be used with at least two arguments (a type and an annotation)."
  | unhashable kind => s!"unhashable type: '{kind}'"
  | operands operator left right =>
    s!"unsupported operand type(s) for {operator}: " ++
      s!"'{clipped 100 left}' and '{clipped 100 right}'"
  | operand operator kind => s!"bad operand type for unary {operator}: '{clipped 200 kind}'"
  | notJoinable kind other => s!"can only concatenate {kind} (not \"{other}\") to {kind}"
  | notCount kind => s!"can't multiply sequence by non-int of type '{kind}'"
  | unordered comparison left right =>
    s!"'{comparison}' not supported between instances of " ++
      s!"'{clipped 100 left}' and '{clipped 100 right}'"
  | notIterable kind => s!"'{clipped 200 kind}' object is not iterable"
  | notSpreadable kind => s!"Value after * must be an iterable, not {clipped 200 kind}"
  | noElements kind => s!"argument of type '{clipped 200 kind}' is not iterable"
  | notMapping kind => s!"'{kind}' object is not a mapping"
  | needsText kind => s!"'in <string>' requires string as left operand, not {kind}"
  | notCallable kind => s!"'{clipped 200 kind}' object is not callable"
  | useClass form origin => s!"Type {form} cannot be instantiated; use {origin}() instead"
  | makesNothing shown => s!"Cannot instantiate {shown}"
  | anyMakesNothing => "Any cannot be instantiated"
  | noNumber name kind =>
    let admitted :=
      if name = "int" then "a string, a bytes-like object or a real number"
      else "a string or a real number"
    s!"{name}() argument must be {admitted}, not '{kind}'"
  | takesNothing name => s!"{clipped 200 name}() takes no arguments"
  | takesOne name given => s!"{name} expected at most 1 argument, got {given}"
  | badTypeCall => "type() takes 1 or 3 arguments"
  | missingKey shown => shown
  | outOfRange kind =>
    if kind = "str" then "string index out of range"
    else if kind = "bytes" then "index out of range"
    else s!"{kind} index out of range"
  | badBound => "slice indices must be integers or None or have an __index__ method"
  | zeroStep => "slice step cannot be zero"
  | noPosition kind index =>
    if kind = "str" then s!"string indices must be integers, not '{index}'"
    else if kind = "bytes" then s!"byte indices must be integers or slices, not {index}"
    else s!"{kind} indices must be integers or slices, not {index}"
  | division message => message
  | raised _ message => message

/-- The class of an error. -/
def TypeExprError.className : TypeExprError → String
  | noExpression _ => "SyntaxError"
  | nulInText | tooManyDigits | zeroStep => "ValueError"
  | tooManyLevels => "MemoryError"
  | tooDeep => "RecursionError"
  | emptyText | outOfRange _ => "IndexError"
  | undefinedName _ => "NameError"
  | noClassMember _ _ | noMember _ _ | noFormMember _ => "AttributeError"
  | division _ => "ZeroDivisionError"
  | missingKey _ => "KeyError"
  | raised className _ => className
  | _ => "TypeError"

end HttpInterface
