import HttpInterface.Text.Quoted
import HttpInterface.Text.Similar
import HttpInterface.Text.Split

/-!
# `HttpInterface.Command.Line`: reading the command line

The words of a command line are options and other words. An option is `--name`,
or `-` with one or more letters that each stand for an option; `--` ends the
options. No option takes a value. The program has one command, and the words
behind the command's name are read with the options of the command.

An option that does not exist or is given a value is reported before anything
else that is wrong, the first of several. Options and commands whose names are
similar are named beside one that does not exist.
-/

set_option autoImplicit false

namespace HttpInterface.Command

/-- What an option asks for. -/
inductive Flag where
  | help
  | version
  | verbose
  deriving DecidableEq, Repr

/-- What is wrong with a command line. -/
inductive UsageError where
  /-- An option that does not exist, and those whose names are similar. -/
  | unknownOption (name : String) (similar : List String)
  /-- An option is given a value. -/
  | unexpectedValue (option : String)
  | missingCommand
  /-- A command that does not exist, and those whose names are similar. -/
  | unknownCommand (name : String) (similar : List String)
  | missingTarget
  /-- Words behind the target. -/
  | extraArguments (words : List String)
  deriving DecidableEq, Repr

/-- The options that may be given. -/
structure OptionSet where
  long : List (String × Flag)
  short : List (Char × Flag)
  /-- Options may stand behind other words. -/
  mixed : Bool

/-- The options and the other words of a command line, in order. -/
structure Words where
  flags : List Flag
  others : List String
  deriving DecidableEq, Repr

/-- What a command line asks for. -/
inductive Invocation where
  /-- To explain the program, for want of anything else to do or because that is
  asked for. -/
  | explain (asked : Bool)
  /-- To explain the command. -/
  | explainInspect
  | version
  | inspect (target : String) (verbose : Bool)
  deriving DecidableEq, Repr

/-- The level of the program at which a command line is wrong. -/
inductive UsageLevel where
  | program
  | inspect
  deriving DecidableEq, Repr

namespace OptionSet

/-- The options in front of the command. -/
def program : OptionSet :=
  { long := [("--version", .version), ("--help", .help)], short := [], mixed := false }

/-- The options of the command. -/
def inspect : OptionSet :=
  { long := [("--verbose", .verbose), ("--help", .help)]
    short := [('v', .verbose)]
    mixed := true }

/-- An option with a name. -/
def readLong (o : OptionSet) (word : String) : Except UsageError (List Flag) :=
  let (front, value) := Text.cut '=' word.toList
  let name := String.ofList front
  match o.long.lookup name, value with
  | none, _ => .error (.unknownOption name ((o.long.map Prod.fst).filter (Text.isSimilar · name)))
  | some flag, none => .ok [flag]
  | some _, some _ => .error (.unexpectedValue name)

/-- Options of one letter each. -/
def readShort (o : OptionSet) (letters : List Char) : Except UsageError (List Flag) :=
  letters.mapM fun c =>
    match o.short.lookup c with
    | some flag => .ok flag
    | none => .error (.unknownOption (String.ofList ['-', c]) [])

/-- The options that a word stands for; `none` for any other word. -/
def readWord (o : OptionSet) (word : String) : Except UsageError (Option (List Flag)) :=
  match word.toList with
  | '-' :: '-' :: _ => some <$> o.readLong word
  | '-' :: c :: letters => some <$> o.readShort (c :: letters)
  | _ => .ok none

/-- Reads the words of a command line. -/
def read (o : OptionSet) : List String → Except UsageError Words
  | [] => .ok ⟨[], []⟩
  | word :: rest => do
    if word = "--" then pure ⟨[], rest⟩
    else
      match ← o.readWord word with
      | some flags =>
        let words ← o.read rest
        pure { words with flags := flags ++ words.flags }
      | none =>
        if o.mixed then
          let words ← o.read rest
          pure { words with others := word :: words.others }
        else pure ⟨[], word :: rest⟩

end OptionSet

/-- The name of the command. -/
def inspectName : String := "inspect"

/-- Reads the words behind the name of the command. -/
def readInspect (words : List String) : Except UsageError Invocation := do
  let read ← OptionSet.inspect.read words
  if .help ∈ read.flags then pure .explainInspect
  else
    match read.others with
    | [] => throw .missingTarget
    | [target] => pure (.inspect target (.verbose ∈ read.flags))
    | _ :: extra => throw (.extraArguments extra)

/-- Reads a command line. -/
def readLine (words : List String) : Except (UsageLevel × UsageError) Invocation := do
  if words.isEmpty then return .explain false
  let read ← (OptionSet.program.read words).mapError fun e => (.program, e)
  match read.flags, read.others with
  | .help :: _, _ => pure (.explain true)
  | _ :: _, _ => pure .version
  | [], [] => throw (.program, .missingCommand)
  | [], name :: rest =>
    if name = inspectName then (readInspect rest).mapError fun e => (.inspect, e)
    else
      -- Behind `--` the place of the command may hold the form of an option.
      match OptionSet.program.read (name :: rest) with
      | .ok ⟨.help :: _, _⟩ => pure (.explain true)
      | .ok ⟨_ :: _, _⟩ => pure .version
      | .ok ⟨[], _⟩ =>
        throw (.program, .unknownCommand name ([inspectName].filter (Text.isSimilar · name)))
      | .error e => throw (.program, e)

/-- What a message adds to name similar words. -/
def suggestion (similar : List String) : String :=
  match similar with
  | [] => ""
  | [one] => s!" Did you mean {Text.quoted one}?"
  | several =>
    let sorted := several.mergeSort fun a b => decide (a ≤ b)
    " (Did you mean one of: " ++ ", ".intercalate (sorted.map Text.quoted) ++ "?)"

/-- The message of a usage error. -/
def UsageError.message : UsageError → String
  | .unknownOption name similar =>
    s!"No such option {Text.quoted name}." ++ suggestion similar
  | .unexpectedValue option => s!"Option {Text.quoted option} does not take a value."
  | .missingCommand => "Missing command."
  | .unknownCommand name similar =>
    s!"No such command {Text.quoted name}." ++ suggestion similar
  | .missingTarget => "Missing argument 'TARGET'."
  | .extraArguments words =>
    let plural := if words.length = 1 then "" else "s"
    s!"Got unexpected extra argument{plural} (" ++ " ".intercalate words ++ ")"

/-- The error is reported together with how the program is called. An error in the
form of one option is not. -/
def UsageError.showsUsage : UsageError → Bool
  | .unexpectedValue _ => false
  | _ => true

end HttpInterface.Command
