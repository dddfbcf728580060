import ToolParams.Environment
import ToolParams.Issue
import ToolParams.Journal
import ToolParams.Number.Numeral
import ToolParams.Text.Blank

/-!
# Settings

The program is configured by environment variables.  A blank variable counts as
one that is not set; a value that cannot be used is an issue, and all issues are
reported together.
-/

namespace ToolParams

/-- How the program is configured. -/
structure Settings where
  /-- the variable that holds the search path -/
  pathVariable : String
  /-- where temporary files go -/
  scratch : String
  /-- where the programs of tools are -/
  programs : Option String
  /-- the file of the registry -/
  registry : String
  /-- a directory with parameter files of further tools -/
  parameterFiles : Option String
  /-- the longest text, in bytes, that stands in a line of a parameter file -/
  limit : Number
  /-- the level from which on events are shown -/
  threshold : Level
  /-- whether parameter files are checked before a tool starts -/
  verify : Bool
deriving DecidableEq, Repr

namespace Settings

/-- The text of a variable without blanks around it, if there is any. -/
def text? (environment : Environment) (name : String) : Option String :=
  ((environment.get? name).map Text.trim).filter (· ≠ "")

def temporaryDirectory (environment : Environment) : String :=
  let named := ["TMPDIR", "TMP", "TEMP"].findSome? fun name =>
    (environment.get? name).filter (· ≠ "")
  let directory := named.getD "/tmp"
  if 1 < directory.toList.length && Text.endsWith directory "/" then Text.dropEnd 1 directory
  else directory

/-- The limit of fields in a setting, and the issues with it. -/
def checkLimit (setting : Option String) : Number × List Issue :=
  match setting with
  | none => (.ofNat 1023, [])
  | some text =>
      let path := [Issue.Step.key "fieldLimit"]
      let limit := Number.read text
      if limit.isNaN then (limit, [.wrongType "number" "nan" path])
      else
        (limit, (if limit.isInteger then [] else [.notWhole path]) ++
          (if (Number.ofNat 0).lt limit then [] else [.notPositive path]))

def levelNames : List String := ["debug", "info", "warn", "error"]

/-- The threshold in a setting, and the issues with it. -/
def checkThreshold (setting : Option String) : Level × List Issue :=
  match setting with
  | none => (.info, [])
  | some name =>
      match Level.ofName? name with
      | some level => (level, [])
      | none => (.info, [.notAmong name levelNames [.key "logLevel"]])

def offWords : List String := ["0", "false", "no", "off"]

/-- Whether a setting switches something on, as it is when not set. -/
def isOn : Option String → Bool
  | none => true
  | some text => Text.toLower text ∉ offWords

/-- The settings in an environment, given where the bundled registry and temporary
files are. -/
def load (bundled temporary : String) (environment : Environment) :
    Except (List Issue) Settings :=
  let setting := text? environment
  let (limit, limitIssues) := checkLimit (setting "PFRUN_FIELD_LIMIT")
  let (threshold, thresholdIssues) := checkThreshold (setting "PFRUN_LOG_LEVEL")
  let issues := limitIssues ++ thresholdIssues
  if issues.isEmpty then
    .ok
      { pathVariable := (setting "PFRUN_PFILES_VAR").getD "PFILES"
        scratch := (setting "PFRUN_TMPDIR").getD temporary
        programs := setting "PFRUN_BIN_DIR"
        registry := (setting "PFRUN_SCHEMA_PATH").getD bundled
        parameterFiles := setting "PFRUN_PAR_DIR"
        limit, threshold
        verify := isOn (setting "PFRUN_VERIFY") }
  else .error issues

end Settings

end ToolParams
