import MetaParity.Settings.CommandLine

/-!
# Arguments

The values that a command line and the environment give, each under the setting it is for. A setting that neither of
them gives is left open.
-/

namespace MetaParity.Settings

structure FactoryChoice where
  library : Option String := none
  symbol : Option String := none
  abi : Option Native.FactoryAbi := none
deriving DecidableEq, Inhabited

structure VerifyArguments where
  images : List String := []
  imagesDirectory : Option String := none
  baseline : FactoryChoice := {}
  current : FactoryChoice := {}
  bufferCapacity : Option Nat := none
  scenarios : List Scenario := []
  strictReset : Bool := false
  failFast : Bool := false
  format : Option ReportFormat := none
  output : Option String := none
  showPassed : Bool := false
deriving DecidableEq, Inhabited

structure PerfArguments where
  library : Option String := none
  image : Option String := none
  baseline : FactoryChoice := {}
  warmup : Option Int32 := none
  iterations : Option Int32 := none
  workloads : List Workload := []
  json : Option String := none
deriving DecidableEq

inductive Command where
  | verify (arguments : VerifyArguments)
  | perf (arguments : PerfArguments)
deriving DecidableEq

structure Arguments where
  verbose : Nat := 0
  logFormat : Option LogFormat := none
  color : Option ColorMode := none
  config : Option String := none
  command : Command
deriving DecidableEq

/-- The highest verbosity; further requests for more are without effect. -/
def maxVerbosity : Nat := 255

namespace Sources

def flag (sources : Sources) (name : String) : Bool :=
  (sources.value? name truth?).getD false

def factory (sources : Sources) (side : Side) : FactoryChoice where
  library := sources.value? (side.name ++ "-lib") some
  symbol := sources.value? (side.name ++ "-symbol") some
  abi := sources.value? (side.name ++ "-abi") fun text => (Native.FactoryAbi.parse text).toOption

def verify (sources : Sources) : VerifyArguments where
  images := sources.values "images"
  imagesDirectory := sources.value? "images-dir" some
  baseline := sources.factory .baseline
  current := sources.factory .current
  bufferCapacity := sources.value? "buffer-capacity" capacity?
  scenarios := (sources.values "scenario").filterMap fun text => (Scenario.parse text).toOption
  strictReset := sources.flag "strict-reset"
  failFast := sources.flag "fail-fast"
  format := sources.value? "format" ReportFormat.ofName?
  output := sources.value? "output" some
  showPassed := sources.flag "show-passed"

def perf (sources : Sources) : PerfArguments where
  library := sources.value? "library" some
  image := sources.value? "image" some
  baseline := sources.factory .baseline
  warmup := sources.value? "warmup" iterations?
  iterations := sources.value? "iterations" iterations?
  workloads := (sources.values "scenario").filterMap fun text => (Workload.parse text).toOption
  json := sources.value? "json" some

end Sources

def Arguments.parse (words : List String) (defined : List (String × String)) : Except Refusal Arguments := do
  let (name, sources) ← Settings.sources words defined
  return {
    verbose := min (sources.values "verbose").length maxVerbosity
    logFormat := sources.value? "log-format" LogFormat.ofName?
    color := sources.value? "color" ColorMode.ofName?
    config := sources.value? "config" some
    command := if name = "verify" then .verify sources.verify else .perf sources.perf }

end MetaParity.Settings
