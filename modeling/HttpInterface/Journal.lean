/-!
# `HttpInterface.Journal`: what compilation reports on its way

Compiling a method reports warnings about its parameters and, at the end, that
it was compiled. The reports made before a failure are kept: a `Journaled` value
is a result together with the reports made on the way to it.
-/

set_option autoImplicit false

namespace HttpInterface

/-- A report. -/
inductive Report where
  /-- Other names than the one that decides were found for a parameter. -/
  | namesIgnored (key parameter name : String) (ignored : List String)
  /-- A parameter without a name has no use because a body is declared. -/
  | parameterIgnored (key parameter : String)
  /-- A method was compiled. -/
  | methodCompiled (key method url : String)
  /-- All methods of an interface were compiled. -/
  | interfaceCompiled (count : Nat) (name : String)
  /-- Compilation of a target starts. -/
  | compiling (target settings : String)
  deriving DecidableEq, Repr

/-- How much a report matters. -/
inductive Level where
  | debug
  | warning
  deriving DecidableEq, Repr

namespace Report

/-- How much the report matters. -/
def level : Report → Level
  | namesIgnored .. | parameterIgnored .. => .warning
  | methodCompiled .. | interfaceCompiled .. | compiling .. => .debug

/-- The text of a report. -/
def message : Report → String
  | namesIgnored key parameter name ignored =>
    s!"{key}: parameter '{parameter}' is bound as '{name}', ignoring " ++
      ", ".intercalate ignored
  | parameterIgnored key parameter =>
    s!"{key}: parameter '{parameter}' is ignored because the method declares a body"
  | methodCompiled key method url =>
    s!"Compiled {key}: {method} " ++ (if url.isEmpty then "<no path>" else url)
  | interfaceCompiled count name => s!"Compiled {count} methods of {name}"
  | compiling target settings => s!"Compiling {target} with {settings}"

/-- The line of a report: its level and its text. -/
def line (r : Report) : String :=
  (match r.level with
    | .debug => "DEBUG: "
    | .warning => "WARNING: ") ++ r.message

end Report

/-- A result and the reports made on the way to it. -/
structure Journaled (ε α : Type) where
  result : Except ε α
  reports : List Report

namespace Journaled

variable {ε α β : Type}

/-- A result without reports. -/
def ofExcept (result : Except ε α) : Journaled ε α := ⟨result, []⟩

/-- A report. -/
def report (r : Report) : Journaled ε Unit := ⟨.ok (), [r]⟩

/-- Goes on with a result; after a failure nothing more is reported. -/
def andThen (x : Journaled ε α) (f : α → Journaled ε β) : Journaled ε β :=
  match x.result with
  | .error e => ⟨.error e, x.reports⟩
  | .ok a => ⟨(f a).result, x.reports ++ (f a).reports⟩

/-- The same reports with a failure renamed. -/
def mapError {ε' : Type} (f : ε → ε') (x : Journaled ε α) : Journaled ε' α :=
  ⟨x.result.mapError f, x.reports⟩

instance : Monad (Journaled ε) where
  pure a := ⟨.ok a, []⟩
  bind := andThen

instance : MonadExceptOf ε (Journaled ε) where
  throw e := ⟨.error e, []⟩
  tryCatch x handle :=
    match x.result with
    | .error e => ⟨(handle e).result, x.reports ++ (handle e).reports⟩
    | .ok _ => x

end Journaled

end HttpInterface
