import HttpInterface.Command

/-!
# `HttpInterface.Main`: the program

The program inspects the interfaces of `catalog`. It reads the environment and
the file `.env`, and prints what `Command.run` makes of them.
-/

set_option autoImplicit false

namespace HttpInterface.Program

open Command

/-- A built-in class as the type of a parameter with a name of its own. -/
def marked (className name : String) : TypeExpr :=
  .annotated (.builtin className) [.param name]

/-- A small interface: the records of a domain. -/
def domainRecords : ClassDef :=
  { name := "DomainRecords"
    decorators := [.headers [.text "Accept: application/json"]]
    members :=
      [("records", .function
        { name := "records"
          decorators :=
            [.requestLine (.text "GET /domains/\x7bdomainId\x7d/records?name=\x7bname\x7d")]
          parameters :=
            [{ name := "self" },
             { name := "domain_id", type := marked "int" "domainId" },
             { name := "name", type := marked "str" "name" }]
          returnType := TypeExpr.builtin "list" })] }

/-- The modules that the program knows. -/
def catalog : Catalog :=
  match ClassTable.ofList "domains" [domainRecords] with
  | .ok classes => [{ classes }]
  | .error _ => []

/-- The variables that settings are made of, as the environment has them. -/
def settingsVariables : IO (List Variable) := do
  let names := [Settings.charsetVariable, Settings.legacyNamesVariable]
  names.filterMapM fun name => do
    return (← IO.getEnv name).map fun value => ⟨name, value⟩

/-- The text of the file `.env`, if it can be read. -/
def settingsFile : IO (Option String) := do
  try
    return some (← IO.FS.readFile ".env")
  catch _ =>
    return none

/-- Runs the program with the words of its command line; gives its exit code. -/
def start (words : List String) : IO UInt32 := do
  let outcome := run catalog ⟨← settingsVariables, ← settingsFile⟩ words
  IO.print outcome.stdout
  IO.eprint outcome.stderr
  if let some failure := outcome.failure then
    IO.eprintln failure.message
  return outcome.exitCode.toUInt32

end HttpInterface.Program

/-- The entry of the program. -/
def main (words : List String) : IO UInt32 :=
  HttpInterface.Program.start words
