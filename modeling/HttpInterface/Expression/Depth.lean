import HttpInterface.Expression

/-!
# `HttpInterface.Expression.Depth`: how deep expressions are nested

An expression that is nested too deep is refused. Two measures count: the depth of the
expression itself, and the levels that are open at once while it is read from left to
right. The left side of an operator opens no level, and a signed value, a power, the
last part of a choice and the body of a function do.
-/

set_option autoImplicit false

namespace HttpInterface.Expression

/-- The depth up to which expressions are admitted. -/
def maxDepth : Nat := 2940

/-- The count of levels that may not be reached. -/
def maxLevels : Nat := 6000

/-- The levels that every expression between brackets opens. -/
def levelsOfGroup : Nat := 24

mutual

/-- The depth of an expression. A row of `or` or of `and` counts once. -/
def depth : Expression → Nat
  | .name _ | .constant _ => 1
  | .tuple items | .list items | .set items | .dict items | .slice items | .formatted items =>
    1 + depthOfAll items
  | .spread e | .spreadEntries e | .memberOf e _ | .named _ e | .unary _ e | .negation e
  | .condition e | .assigned _ e | .pause e | .pauseEach e => 1 + depth e
  | .entry a b | .subscript a b | .binary _ a b | .loop a b | .asyncLoop a b | .gap a _ b =>
    1 + max (depth a) (depth b)
  | .conjunction a b | .disjunction a b => max (1 + depth a) (depth b)
  | .call e args => 1 + max (depth e) (depthOfAll args)
  | .comparison e links => 1 + max (depth e) (depthOfLinks links)
  | .choice a b c => 1 + max (depth a) (max (depth b) (depth c))
  | .function _ defaults body => 1 + max (depthOfAll defaults) (depth body)
  | .comprehension _ e steps => 1 + max (depth e) (depthOfAll steps)

/-- The largest depth of some expressions. -/
def depthOfAll : List Expression → Nat
  | [] => 0
  | e :: rest => max (depth e) (depthOfAll rest)

/-- The largest depth of the values behind comparisons. -/
def depthOfLinks : List (Comparison × Expression) → Nat
  | [] => 0
  | (_, e) :: rest => max (depth e) (depthOfLinks rest)

end

mutual

/-- The levels that the reading of an expression opens at once. -/
def levels : Expression → Nat
  | .name _ | .constant _ => 0
  | .tuple items | .list items | .set items | .dict items | .slice items | .formatted items =>
    levelsOfGroup + levelsOfAll items
  | .spread e | .spreadEntries e | .memberOf e _ | .named _ e | .condition e
  | .assigned _ e => levels e
  | .pause e | .pauseEach e => levelsOfGroup + levels e
  | .unary _ e | .negation e => 1 + levels e
  | .binary .power a b => max (levels a) (2 + levels b)
  | .entry a b | .binary _ a b | .loop a b | .asyncLoop a b | .gap a _ b =>
    max (levels a) (levels b)
  | .conjunction a b | .disjunction a b => max (levels a) (levels b)
  | .subscript a b => max (levels a) (levelsOfGroup + levels b)
  | .call e args => max (levels e) (levelsOfGroup + levelsOfAll args)
  | .comparison e links => max (levels e) (levelsOfLinks links)
  | .choice a b c => max (levels a) (max (levels b) (1 + levels c))
  | .function _ defaults body => max (levelsOfAll defaults) (2 + levels body)
  | .comprehension _ e steps => levelsOfGroup + max (levels e) (levelsOfAll steps)

/-- The most levels that one of some expressions opens. -/
def levelsOfAll : List Expression → Nat
  | [] => 0
  | e :: rest => max (levels e) (levelsOfAll rest)

/-- The most levels that one of the values behind comparisons opens. -/
def levelsOfLinks : List (Comparison × Expression) → Nat
  | [] => 0
  | (_, e) :: rest => max (levels e) (levelsOfLinks rest)

end

end HttpInterface.Expression
