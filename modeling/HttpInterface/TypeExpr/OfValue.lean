import HttpInterface.TypeExpr.Error
import HttpInterface.Value

/-!
# `HttpInterface.TypeExpr.OfValue`: values where types may stand

What a class holds under a name is a value, and the text of a type may name it. A value
becomes a declared type part by part; the keys of a dictionary stay in their order.
-/

set_option autoImplicit false

namespace HttpInterface

namespace TypeExpr

mutual

/-- A value as a declared type. -/
def ofValue : Value → TypeExpr
  | .null => .none
  | .bool b => .constant (.bool b)
  | .int i => .constant (.int i)
  | .float x => .constant (.float (Decimal.floatText x))
  | .text s => .text s
  | .bytes bs => .constant (.bytes bs)
  | .list items => .list (ofValues items)
  | .tuple items => .tuple (ofValues items)
  | .dict entries => .dict (ofKeys entries) (ofEntryValues entries)
  | .url u =>
    .other
      { kind := "URL"
        name := Option.none
        text := "URL(" ++ Text.quoted u.maskedText ++ ")"
        plainText := some u.text }

/-- Values as declared types. -/
def ofValues : List Value → List TypeExpr
  | [] => []
  | v :: rest => ofValue v :: ofValues rest

/-- The keys of entries as declared types. -/
def ofKeys : List (Value × Value) → List TypeExpr
  | [] => []
  | (k, _) :: rest => ofValue k :: ofKeys rest

/-- The values of entries as declared types. -/
def ofEntryValues : List (Value × Value) → List TypeExpr
  | [] => []
  | (_, v) :: rest => ofValue v :: ofEntryValues rest

end

/-- The name of a class: no other value names one. -/
def classNameOf : Value → Except TypeExprError String
  | .text s => pure s
  | v => throw (.raised "TypeError"
      s!"type.__new__() argument 1 must be str, not {v.kindName}")

end TypeExpr

end HttpInterface
