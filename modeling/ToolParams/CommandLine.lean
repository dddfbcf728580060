import ToolParams.Application
import ToolParams.Settings.VariableFile
import ToolParams.Settings.Vault
import ToolParams.ToolArguments

/-!
# The command line

The first word says what to do: list the tools, show the parameters of a tool, or
run the tool that it names.  A failure is recorded and reported, and ends the
program with code 1.
-/

namespace ToolParams.CommandLine

/-- How the program is used. -/
def usage : String :=
  "Usage:\n" ++
  "  pfrun <tool> [name=value ...] [value ...]   run a tool\n" ++
  "  pfrun --list <tool>                          show parameters and defaults\n" ++
  "  pfrun --tools                                list known tools\n"

/-- The file of variables in the working directory. -/
def variableFile : String := ".env"

/-- The vault of variables in the working directory. -/
def vaultFile : String := ".env.vault"

/-- What is printed when there is a key but no vault. -/
def vaultMissing : String :=
  "[dotenv@16.6.1][WARN] You set DOTENV_KEY but you are missing a .env.vault file at null. " ++
    "Did you forget to build it?\n"

/-- What the program prints and how it ends. -/
structure Report where
  exitCode : Nat
  output : String
  /-- the events that are shown -/
  entries : List Entry
  /-- the message of a failure -/
  complaint : Option String
deriving Repr

def Report.plain (exitCode : Nat) (output : String) : Report :=
  { exitCode, output, entries := [], complaint := none }

/-- The record of the failure that ends the program. -/
def fatal (message : String) : Entry :=
  { level := .error, event := "fatal", data := [("error", .text message)] }

/-- The options of a run with the values in some words. -/
def optionsOf (words : List String) : RunOptions :=
  let found := ToolArguments.ofWords words
  { RunOptions.none with
    arguments := found.positional.map .ofText
    parameters := found.named.map fun (name, value) => (name, .ofText value) }

/-- Does what the words ask for; gives the exit code and the output. -/
def serve (launcher : Launcher) (settings : Settings) (first : String) (rest : List String) :
    Action Unit (Nat × String) := do
  let application ← Application.start settings
  if first = "--tools" then
    return (0, "\n".intercalate application.registry.list ++ "\n")
  else if first = "--list" then
    let tool := rest.headD ""
    if tool = "" then return (1, usage)
    let store ← Action.lift .schema (application.store tool)
    return (0, store.describe ++ "\n")
  else
    let store ← Action.lift .schema (application.store first)
    let (outcome, _) ← Action.outcomeOn store
      (application.runner.run launcher (optionsOf rest))
    let result ← Action.yield outcome
    return (0, match result.output with
      | some output => output ++ "\n"
      | none => "")

def failed (entries : List Entry) (failure : Failure) : Report :=
  { exitCode := 1, output := "", entries := entries ++ [fatal failure.message],
    complaint := some failure.message }

/-- The environment with the variables of the file in the working directory. -/
def withVariableFile (world : World) : Environment :=
  match world.files.read variableFile with
  | .ok text => VariableFile.addTo world.environment text
  | .error _ => world.environment

/-- The environment with the variables of the vault, if there is a key for it, or else
of the file; and what is printed on the way. -/
def withVariables (world : World) : Except Vault.VaultFault Environment × String :=
  let key := (world.environment.get? "DOTENV_KEY").getD ""
  if key = "" then (.ok (withVariableFile world), "")
  else if (world.files.lookup vaultFile).toOption.isNone then
    (.ok (withVariableFile world), vaultMissing)
  else
    let vault := (world.files.read vaultFile).toOption.getD ""
    (Vault.addTo world.environment vault key, "")

/-- Performs the command in some words, the variables being known. -/
def runLoaded (launcher : Launcher) (bundled first : String) (rest : List String)
    (world : World) : Report × World :=
  let temporary := Settings.temporaryDirectory world.environment
  match Settings.load bundled temporary world.environment with
  | .error issues => (failed [] (.settings issues), world)
  | .ok settings =>
      let shown := world.journal.length
      let (outcome, world, _) := (serve launcher settings first rest).perform world ()
      let entries := (world.journal.drop shown).filter (·.reaches settings.threshold)
      match outcome with
      | .error failure => (failed entries failure, world)
      | .ok (exitCode, output) =>
          ({ exitCode, output, entries, complaint := none }, world)

/-- Performs the command in some words. -/
def run (launcher : Launcher) (bundled : String) (words : List String) (world : World) :
    Report × World :=
  match words with
  | [] => (.plain 1 usage, world)
  | first :: rest =>
      if first = "--help" ∨ first = "-h" then (.plain 0 usage, world)
      else match withVariables world with
        | (.error fault, notice) =>
            ({ failed [] (.raised fault.message) with output := notice }, world)
        | (.ok environment, notice) =>
            let (report, world) := runLoaded launcher bundled first rest { world with environment }
            ({ report with output := notice ++ report.output }, world)

end ToolParams.CommandLine
