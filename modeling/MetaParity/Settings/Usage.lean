import MetaParity.Settings.CommandLine
import MetaParity.Text.Basic

/-!
# Usage

What a command line may hold, for those who ask for help.
-/

namespace MetaParity.Settings

def Form.usage : Form → String
  | path => "<path>"
  | text => "<text>"
  | capacity | iterations => "<number>"
  | abi => "<class-factory|interface>"
  | scenario | workload => "<name>"
  | logFormat => "|".intercalate (LogFormat.all.map (·.name))
  | color => "|".intercalate (ColorMode.all.map (·.name))
  | reportFormat => "|".intercalate (ReportFormat.all.map (·.name))
  | truth => "true|false"

def Parameter.spelling (parameter : Parameter) : String :=
  if parameter.positional then "    [" ++ parameter.name ++ "]"
  else (match parameter.short with
    | some c => String.ofList ['-', c, ',', ' ']
    | none => "    ") ++ "--" ++ parameter.name

/-- The line about a parameter: how it is given, its value, and the environment variable that stands in for it. -/
def Parameter.usage (parameter : Parameter) : String :=
  let value := if parameter.action.takesValue then [parameter.action.form.usage] else []
  let notes := value ++ parameter.environment.toList.map ("[env: " ++ · ++ "]")
  "  " ++ (if notes.isEmpty then parameter.spelling
    else Text.alignLeft 27 parameter.spelling ++ " ".intercalate notes) ++ "\n"

def usageSection (heading : String) (parameters : List Parameter) : String :=
  "\n" ++ heading ++ ":\n" ++ String.join (parameters.map (·.usage))

def programName : String := "mdregress"

def versionLine : String := programName ++ " 0.1.0\n"

def usage : String :=
  "Drives two metadata import libraries through the same enumerations and reports the first difference.\n\n"
    ++ "Usage: " ++ programName ++ " [options] verify|perf|help [arguments]\n"
    ++ usageSection "Options of every command" Level.root.parameters
    ++ usageSection "verify" Parameter.verify
    ++ usageSection "perf" Parameter.perf

end MetaParity.Settings
