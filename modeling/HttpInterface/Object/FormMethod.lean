import HttpInterface.Predefined.Class

/-!
# `HttpInterface.Object.FormMethod`: the methods of forms

A form of a type has methods of its own: it takes arguments, is made into a choice with
another type, and is asked about values and classes. The kinds of forms take methods from
each other.
-/

set_option autoImplicit false

namespace HttpInterface.FormMethod

/-- The methods of the kinds of forms. -/
def table : List (String × String) :=
  [("_SpecialForm",
    "__call__ __getitem__ __init__ __instancecheck__ __mro_entries__ __or__ __reduce__ " ++
      "__repr__ __ror__ __subclasscheck__ __getattr__"),
   ("_UnionGenericAlias",
    "__eq__ __hash__ __instancecheck__ __reduce__ __repr__ __subclasscheck__ copy_with"),
   ("_LiteralGenericAlias", "__eq__ __hash__"),
   ("_AnnotatedAlias", "__eq__ __hash__ __init__ __reduce__ __repr__ copy_with __getattr__"),
   ("_GenericAlias",
    "__eq__ __getitem__ __hash__ __init__ __mro_entries__ __or__ __reduce__ __repr__ __ror__ " ++
      "copy_with _determine_new_args _make_substitution __iter__"),
   ("_SpecialGenericAlias",
    "__getitem__ __init__ __or__ __reduce__ __repr__ __ror__ __subclasscheck__ copy_with"),
   ("_BaseGenericAlias",
    "__call__ __dir__ __instancecheck__ __mro_entries__ __setattr__ __subclasscheck__ " ++
      "__getattr__"),
   ("TypeVar", "__or__ __ror__ __repr__ __reduce__ __mro_entries__"),
   ("_Final", "__init_subclass__")]

/-- The kinds from which a kind takes methods, itself first. -/
def lineage (kind : String) : List String :=
  if kind = "_SpecialForm" then [kind, "_Final"]
  else if kind = "TypeVar" then [kind, "_Final"]
  else if kind = "_SpecialGenericAlias" then [kind, "_BaseGenericAlias", "_Final"]
  else [kind, "_GenericAlias", "_BaseGenericAlias", "_Final"].eraseDups

/-- The kind that gives a form of a kind its method. -/
def owner? (kind name : String) : Option String :=
  (lineage kind).find? fun k =>
    ((table.lookup k).map fun names => (Predefined.namesIn names).contains name).getD false

/-- The kinds of forms that have methods. -/
def owners : List String := table.map Prod.fst

/-- The names of the parameters of a method. -/
def parameterNames (owner name : String) : List String :=
  match name with
  | "__getitem__" =>
    if owner = "_SpecialForm" then ["parameters"]
    else if owner = "_GenericAlias" then ["args"]
    else ["params"]
  | "copy_with" => if owner = "_GenericAlias" then ["args"] else ["params"]
  | "__or__" => if owner = "_SpecialForm" then ["other"] else ["right"]
  | "__ror__" => if owner = "_SpecialForm" then ["other"] else ["left"]
  | "__eq__" => ["other"]
  | "__instancecheck__" => ["obj"]
  | "__subclasscheck__" => ["cls"]
  | "__mro_entries__" => ["bases"]
  | "__setattr__" => ["attr", "val"]
  | "__getattr__" => if owner = "_SpecialForm" then ["item"] else ["attr"]
  | _ => []

end HttpInterface.FormMethod
