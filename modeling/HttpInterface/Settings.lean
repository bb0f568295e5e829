import HttpInterface.Charset
import HttpInterface.Text.Blank
import HttpInterface.Text.Case

/-!
# `HttpInterface.Settings`: how interfaces are compiled

Two things can be set: the charset of declared bodies and whether the older
name marker counts. Environment variables can set both; an empty variable sets
nothing. The name of the charset has to stand for a charset.
-/

set_option autoImplicit false

namespace HttpInterface

/-- How interfaces are compiled. -/
structure Settings where
  bodyCharset : String := "utf-8"
  legacyNames : Bool := true
  deriving DecidableEq, Repr

namespace Settings

/-- The variable that names the charset of bodies. -/
def charsetVariable : String := "RESTLINE_BODY_CHARSET"

/-- The variable that admits or rules out the older name marker. -/
def legacyNamesVariable : String := "RESTLINE_LEGACY_NAMES"

/-- The words that rule something out, in lower case. -/
def negativeWords : List String := ["0", "false", "no", "off"]

/-- A variable rules out what it is about. -/
def isNegative (value : String) : Bool :=
  negativeWords.contains (Text.lowerAscii (Text.trimmed value))

/-- The settings that variables make; the charset's name is not checked. -/
def ofVariables (lookup : String → Option String) : Settings :=
  let charset := (lookup charsetVariable).filter fun v => !v.isEmpty
  let legacyNames := (lookup legacyNamesVariable).filter fun v => !v.isEmpty
  { bodyCharset := charset.getD "utf-8"
    legacyNames := (legacyNames.map fun v => !isNegative v).getD true }

/-- The settings as a report shows them. -/
def shown (s : Settings) : String :=
  "\x7b'body_charset': " ++ Text.quoted s.bodyCharset ++ ", 'legacy_names': " ++
    (if s.legacyNames then "True" else "False") ++ "\x7d"

end Settings

end HttpInterface
