import MetaParity.Native.Factory
import MetaParity.Settings.Choice
import MetaParity.Workload

/-!
# Parameters

What a command line may hold: options, flags and positional values, with the environment variables that stand in for
them and the form that their values have.
-/

namespace MetaParity.Settings

inductive Refusal where
  | helpWanted
  | versionWanted
  | nothingGiven
  | missingSubcommand
  | unknownSubcommand
  | unknownArgument
  /-- A value is missing, empty where it must not be, or not one of the words allowed. -/
  | invalidValue
  | unreadableValue
  | repeated
  | unneededValue
deriving DecidableEq, Inhabited

def Refusal.message : Refusal → String
  | helpWanted => "help was asked for"
  | versionWanted => "the version was asked for"
  | nothingGiven => "no subcommand was given"
  | missingSubcommand => "a subcommand is required"
  | unknownSubcommand => "there is no such subcommand"
  | unknownArgument => "an argument is not known here"
  | invalidValue => "a value is missing or not allowed"
  | unreadableValue => "a value cannot be read"
  | repeated => "an argument may be given only once"
  | unneededValue => "a flag takes no value"

/-- The exit status of a program that refuses its command line: asking for help or the version is no mistake. -/
def Refusal.exitCode : Refusal → Nat
  | helpWanted | versionWanted => 0
  | _ => 2

def natural? (text : List Char) : Option Nat :=
  if text.isEmpty then none
  else text.foldlM (fun number c => if c.isDigit then some (10 * number + (c.toNat - 0x30)) else none) 0

/-- A page size: decimal digits, perhaps behind a plus sign, below 2^64. -/
def capacity? (text : String) : Option Nat := do
  let number ← match text.toList with
    | '+' :: digits => natural? digits
    | digits => natural? digits
  if number < 0x10000000000000000 then return number else failure

/-- A count of iterations: decimal digits, perhaps behind a sign, in the range of thirty-two bits. -/
def iterations? (text : String) : Option Int32 := do
  let number : Int ← match text.toList with
    | '+' :: digits => (natural? digits).map Int.ofNat
    | '-' :: digits => (natural? digits).map (-Int.ofNat ·)
    | digits => (natural? digits).map Int.ofNat
  if -0x80000000 ≤ number ∧ number < 0x80000000 then return .ofInt number else failure

/-- A truth value: exactly one of two words. -/
def truth? (text : String) : Option Bool :=
  if text = "true" then some true
  else if text = "false" then some false
  else none

inductive Form where
  | path
  | text
  | capacity
  | iterations
  | abi
  | scenario
  | workload
  | logFormat
  | color
  | reportFormat
  | truth
deriving DecidableEq, Inhabited

/-- What is wrong with a text as a value of a form, if anything is. -/
def Form.refusal? (form : Form) (value : String) : Option Refusal :=
  let require (accepted : Bool) (refusal : Refusal) : Option Refusal := if accepted then none else some refusal
  match form with
  | path => require (value ≠ "") .invalidValue
  | text => none
  | capacity => require (capacity? value).isSome .unreadableValue
  | iterations => require (iterations? value).isSome .unreadableValue
  | abi => require (Native.FactoryAbi.parse value).isOk .unreadableValue
  | scenario => require (Scenario.parse value).isOk .unreadableValue
  | workload => require (Workload.parse value).isOk .unreadableValue
  | logFormat => require (LogFormat.ofName? value).isSome .invalidValue
  | color => require (ColorMode.ofName? value).isSome .invalidValue
  | reportFormat => require (ReportFormat.ofName? value).isSome .invalidValue
  | truth => require (truth? value).isSome .invalidValue

inductive Action where
  | help
  | version
  | count
  /-- Switches something on; given once at most. -/
  | switch
  /-- Takes one value; given once at most. -/
  | one (form : Form)
  | many (form : Form)
deriving DecidableEq, Inhabited

def Action.takesValue : Action → Bool
  | one _ | many _ => true
  | _ => false

/-- The form of the values of a parameter; for a flag, of the environment variable that stands in for it. -/
def Action.form : Action → Form
  | one form | many form => form
  | _ => .truth

/-- A parameter: an option under its long name, or a value told by its position. -/
structure Parameter where
  name : String
  short : Option Char := none
  positional : Bool := false
  environment : Option String := none
  action : Action
deriving DecidableEq, Inhabited

namespace Parameter

def common : List Parameter := [
  { name := "verbose", short := some 'v', action := .count },
  { name := "log-format", environment := some "MDREGRESS_LOG_FORMAT", action := .one .logFormat },
  { name := "color", environment := some "MDREGRESS_COLOR", action := .one .color },
  { name := "config", environment := some "MDREGRESS_CONFIG", action := .one .path }]

def help : Parameter := { name := "help", short := some 'h', action := .help }

def version : Parameter := { name := "version", short := some 'V', action := .version }

def baseline : List Parameter := [
  { name := "baseline-lib", environment := some "MDREGRESS_BASELINE_LIB", action := .one .path },
  { name := "baseline-symbol", environment := some "MDREGRESS_BASELINE_SYMBOL", action := .one .text },
  { name := "baseline-abi", environment := some "MDREGRESS_BASELINE_ABI", action := .one .abi }]

def current : List Parameter := [
  { name := "current-lib", environment := some "MDREGRESS_CURRENT_LIB", action := .one .path },
  { name := "current-symbol", environment := some "MDREGRESS_CURRENT_SYMBOL", action := .one .text },
  { name := "current-abi", environment := some "MDREGRESS_CURRENT_ABI", action := .one .abi }]

def verify : List Parameter :=
  { name := "images", positional := true, action := .many .path }
    :: { name := "images-dir", environment := some "MDREGRESS_IMAGES_DIR", action := .one .path }
    :: baseline ++ current ++ [
      { name := "buffer-capacity", environment := some "MDREGRESS_BUFFER_CAPACITY", action := .one .capacity },
      { name := "scenario", short := some 's', action := .many .scenario },
      { name := "strict-reset", environment := some "MDREGRESS_STRICT_RESET", action := .switch },
      { name := "fail-fast", action := .switch },
      { name := "format", short := some 'f', action := .one .reportFormat },
      { name := "output", short := some 'o', action := .one .path },
      { name := "show-passed", action := .switch }]

def perf : List Parameter := [
  { name := "library", positional := true, environment := some "MDREGRESS_PERF_LIB", action := .one .path },
  { name := "image", short := some 'i', environment := some "MDREGRESS_PERF_IMAGE", action := .one .path },
  { name := "warmup", action := .one .iterations },
  { name := "iterations", short := some 'n', action := .one .iterations },
  { name := "scenario", short := some 's', action := .many .workload }]
    ++ baseline ++ [{ name := "json", action := .one .path }]

end Parameter

end MetaParity.Settings
