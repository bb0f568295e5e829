import HttpInterface.Class.Describe
import HttpInterface.Command.Catalog
import HttpInterface.Command.Environment
import HttpInterface.Command.Line
import HttpInterface.Record.OfFields

/-!
# `HttpInterface.Command`: the program that inspects an interface

The program compiles an interface and prints its methods as JSON. It writes its
results to one stream, reports and errors to the other, and ends with a code: 0
if all went well, 1 if the interface has a defect, 2 if the command line is
wrong. A failure that the program does not expect is handed on as the cause it
is, with code 1.

The target is looked up before the settings are read, and nothing is printed of
an interface that is not compiled as a whole.
-/

set_option autoImplicit false

namespace HttpInterface.Command

/-- A failure that is no matter of the command line or of the interface. -/
inductive Failure where
  /-- The name of a module starts with a point, or the module is no proper one. -/
  | target (error : TargetError)
  /-- The file sets a variable that the environment cannot have. -/
  | variable (error : VariableError)
  /-- The environment sets what cannot be set, or a mark states what is no text. -/
  | issues (issues : List Issue)
  /-- The text of a type stands for no type, or a type has no text that can be told. -/
  | type (error : TypeExprError)
  /-- A declared body has no bytes in the charset. -/
  | coding (error : CodingError)
  deriving DecidableEq, Repr

/-- How a run ends. -/
structure Outcome where
  exitCode : Nat
  stdout : String := ""
  stderr : String := ""
  failure : Option Failure := none
  deriving DecidableEq, Repr

/-! ### Texts -/

/-- The name of the program. -/
def programName : String := "restline"

/-- The version of the program. -/
def programVersion : String := "0.1.0"

/-- How the program is called. -/
def UsageLevel.usage : UsageLevel → String
  | .program => s!"Usage: {programName} [OPTIONS] COMMAND [ARGS]..."
  | .inspect => s!"Usage: {programName} {inspectName} [OPTIONS] TARGET"

/-- The words that ask for an explanation. -/
def UsageLevel.helpLine : UsageLevel → String
  | .program => s!"Try '{programName} --help' for help."
  | .inspect => s!"Try '{programName} {inspectName} --help' for help."

/-- What the command does. -/
def inspectSummary : String :=
  "Compile an interface and print the metadata of each of its methods."

/-- The explanation of the program or of the command. -/
def UsageLevel.explanation (level : UsageLevel) : List String :=
  level.usage :: "" ::
    match level with
    | .program =>
      ["  Compile and inspect declarative HTTP interfaces.", "",
       "Options:",
       "  --version  Show the version and exit.",
       "  --help     Show this message and exit.", "",
       "Commands:",
       s!"  {inspectName}  {inspectSummary}"]
    | .inspect =>
      [s!"  {inspectSummary}", "",
       "Options:",
       "  -v, --verbose  Enable verbose logging",
       "  --help         Show this message and exit."]

/-- Lines as a text, each with its end. -/
def unlines (lines : List String) : String :=
  String.join (lines.map fun line => line ++ "\n")

/-! ### Running -/

/-- The lines that tell that a command line is wrong. -/
def usageLines (level : UsageLevel) (message : String) : List String :=
  [level.usage, level.helpLine, "", s!"Error: {message}"]

/-- The end of a run whose command line is wrong. -/
def usageOutcome (level : UsageLevel) (error : UsageError) : Outcome :=
  let lines :=
    if error.showsUsage then usageLines level error.message else [s!"Error: {error.message}"]
  { exitCode := 2, stderr := unlines lines }

/-- The end of a run whose target names no class. -/
def targetOutcome (log : List String) (error : TargetError) : Outcome :=
  match error with
  | .relativeModule _ | .notCallable _ | .takesNothing _ | .noPlaces _ =>
    { exitCode := 1, stderr := unlines log, failure := some (.target error) }
  | _ =>
    { exitCode := 2
      stderr := unlines (log ++ usageLines .inspect s!"Invalid value for TARGET: {error.message}") }

/-- The lines that tell where the file of variables is malformed. -/
def fileWarnings (environment : Environment) : List String :=
  environment.malformedLines.map fun line =>
    s!"python-dotenv could not parse statement starting at line {line}"

/-- The lines of the reports that are shown. -/
def reportLines (verbose : Bool) (reports : List Report) : List String :=
  (reports.filter fun r => verbose || r.level = .warning).map Report.line

/-- Compiled methods as the text that is printed. -/
def methodsText (methods : OrderedMap String CompiledMethod) : String :=
  (Json.object (methods.entries.map fun e => (e.1, e.2.describe))).indented .ascii 0

/-- The end of a run whose interface was compiled or failed to be. -/
def compiledOutcome (log : List String)
    (result : Except InterfaceError (OrderedMap String CompiledMethod)) : Outcome :=
  let failed (f : Failure) : Outcome :=
    { exitCode := 1, stderr := unlines log, failure := some f }
  match result with
  | .ok methods =>
    if methods.values.all CompiledMethod.isDescribable then
      { exitCode := 0, stdout := unlines [methodsText methods], stderr := unlines log }
    else failed (.type .tooManyDigits)
  | .error (.describe (.defect d)) | .error (.compile (.defect d)) =>
    { exitCode := 1, stderr := unlines (log ++ [s!"Error: {d.message}"]) }
  | .error (.describe (.issues issues)) => failed (.issues issues)
  | .error (.describe (.type e)) => failed (.type e)
  | .error (.compile (.coding e)) => failed (.coding e)

/-- Inspects the interface that a target names. -/
def inspect (catalog : Catalog) (environment : Environment) (target : String)
    (verbose : Bool) : Outcome :=
  let warnings := fileWarnings environment
  match environment.fileVariables.forM Variable.check, catalog.find target with
  | .error e, _ => { exitCode := 1, stderr := unlines warnings, failure := some (.variable e) }
  | .ok _, .error e => targetOutcome warnings e
  | .ok _, .ok (m, c) =>
    match Settings.ofEnvironment environment.get? with
    | .bad issues =>
      { exitCode := 1, stderr := unlines warnings, failure := some (.issues issues) }
    | .ok settings =>
      let compiled := m.classes.compile c settings (.standard settings.legacyNames)
      let reports := .compiling target settings.shown :: compiled.reports
      compiledOutcome (warnings ++ reportLines verbose reports) compiled.result

/-- Runs the program. -/
def run (catalog : Catalog) (environment : Environment) (words : List String) : Outcome :=
  match readLine words with
  | .error (level, e) => usageOutcome level e
  | .ok (.explain true) => { exitCode := 0, stdout := unlines UsageLevel.program.explanation }
  | .ok (.explain false) => { exitCode := 2, stderr := unlines UsageLevel.program.explanation }
  | .ok .explainInspect => { exitCode := 0, stdout := unlines UsageLevel.inspect.explanation }
  | .ok .version =>
    { exitCode := 0, stdout := unlines [s!"{programName}, version {programVersion}"] }
  | .ok (.inspect target verbose) => inspect catalog environment target verbose

/-- The message of a failure. -/
def Failure.message : Failure → String
  | .target e => e.message
  | .variable e => e.message
  | .issues found => Issue.messages found
  | .type e => e.message
  | .coding e => e.message

end HttpInterface.Command
