import HttpInterface.Declaration

/-!
# `HttpInterface.Naming`: the name that a parameter is bound to

A strategy may find a name for a parameter. Strategies are tried in order and
the first that finds one decides; an empty name is no name. All names found,
each once, are the candidates: the one that decides is the first of them.
-/

set_option autoImplicit false

namespace HttpInterface

/-- A way to find a name for a parameter. -/
abbrev NameStrategy := Parameter → Option String

/-- Strategies in the order in which they are tried. -/
structure NameResolver where
  strategies : List NameStrategy

namespace NameStrategy

/-- The name, unless it is empty. -/
def nonempty (name : Option String) : Option String :=
  name.filter fun n => !n.isEmpty

/-- The name of the usual marker. -/
def primary : NameStrategy := fun p => nonempty p.primaryName

/-- The name of the older marker. -/
def legacy : NameStrategy := fun p => nonempty p.legacyName

end NameStrategy

namespace NameResolver

/-- The usual marker decides, then the older one if it is admitted. -/
def standard (legacyNames : Bool) : NameResolver :=
  ⟨if legacyNames then [NameStrategy.primary, NameStrategy.legacy] else [NameStrategy.primary]⟩

/-- The names that the strategies find, each once, in their order. -/
def candidates (r : NameResolver) (p : Parameter) : List String :=
  (r.strategies.filterMap fun strategy => NameStrategy.nonempty (strategy p)).eraseDups

/-- The first name that a strategy finds. -/
def resolve (r : NameResolver) (p : Parameter) : Option String :=
  r.strategies.findSome? fun strategy => NameStrategy.nonempty (strategy p)

end NameResolver

end HttpInterface
