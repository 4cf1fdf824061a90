import MetaParity.Listing
import MetaParity.Session

/-!
# Differential runs

A run drives scenario after scenario, the baseline to its end before the current side is touched, and compares what
they listed. The first scenario that fails ends the run; those after it are skipped.
-/

namespace MetaParity

structure RunConfig where
  bufferCapacity : Nat := Lister.standardCapacity
  /-- Whether replays are also checked on each side alone. -/
  strictReset : Bool := false
  scenarios : List Scenario := Scenario.all
  /-- How many items around a first difference the diff shows. -/
  context : Nat := Compare.standardContext
deriving DecidableEq

inductive Outcome where
  | passed
  /-- A side failed, or, without a side, the listings differ. -/
  | failed (side : Option Side) (reason : String) (divergence : Option Divergence)
  | skipped (reason : String)
deriving DecidableEq

namespace Outcome

def isPass : Outcome → Bool
  | passed => true
  | _ => false

def isFail : Outcome → Bool
  | failed .. => true
  | _ => false

def isSkipped : Outcome → Bool
  | skipped _ => true
  | _ => false

end Outcome

/-- The result of one scenario. Durations count nanoseconds; whoever holds a clock fills them in. -/
structure ScenarioRecord where
  scenario : Scenario
  outcome : Outcome
  baselineItems : Option Nat := none
  currentItems : Option Nat := none
  duration : Nat := 0
deriving DecidableEq

structure ImageSummary where
  image : String
  openError : Option String := none
  passed : Nat := 0
  failed : Nat := 0
  skipped : Nat := 0
  duration : Nat := 0
  records : List ScenarioRecord := []
deriving DecidableEq

namespace ImageSummary

def openFailed (image : String) (failure : Failure) : ImageSummary :=
  { image, openError := some failure.message }

def ofRecords (image : String) (records : List ScenarioRecord) : ImageSummary where
  image
  passed := records.countP (·.outcome.isPass)
  failed := records.countP (·.outcome.isFail)
  skipped := records.countP (·.outcome.isSkipped)
  records

def isPass (summary : ImageSummary) : Bool :=
  summary.openError.isNone && summary.failed == 0

def firstFailure? (summary : ImageSummary) : Option ScenarioRecord :=
  summary.records.find? (·.outcome.isFail)

end ImageSummary

/-- Why a scenario did not pass: a failure of one side, or of neither when the listings differ. -/
structure Mishap where
  side : Option Side
  failure : Failure

namespace Mishap

def divergence? (mishap : Mishap) : Option Divergence :=
  match mishap.failure with
  | .diverged divergence => some divergence
  | _ => none

def record (mishap : Mishap) (scenario : Scenario) : ScenarioRecord where
  scenario
  outcome := .failed mishap.side mishap.failure.message mishap.divergence?
  baselineItems := mishap.divergence?.map (·.baselineLength)
  currentItems := mishap.divergence?.map (·.currentLength)

end Mishap

namespace Run

/-- A computation over the sessions of a run. It has no result if a drain was given up. -/
abbrev RunM (ω : Type) := OptionT (StateM ω)

def list (config : RunConfig) (pair : SessionPair ω) (scenario : Scenario) (side : Side) :
    RunM ω (Except Mishap Listing) :=
  OptionT.mk fun state =>
    let lister := Lister.of (pair.session side).toImport config.bufferCapacity
    match (scenario.run lister side config.strictReset).run state with
    | (.ok listing, state) => (some (.ok listing), state)
    | (.error (.failed failure), state) => (some (.error ⟨some side, failure⟩), state)
    | (.error .exhausted, state) => (none, state)

def execute (config : RunConfig) (pair : SessionPair ω) (scenario : Scenario) : RunM ω (Except Mishap (Nat × Nat)) := do
  match ← list config pair scenario .baseline with
  | .error mishap => return .error mishap
  | .ok baseline =>
    match ← list config pair scenario .current with
    | .error mishap => return .error mishap
    | .ok current =>
      match baseline.compare config.context scenario current with
      | none => return .ok (baseline.length, current.length)
      | some divergence => return .error ⟨none, .diverged divergence⟩

def skip (halted : Scenario) (scenarios : List Scenario) : List ScenarioRecord :=
  scenarios.map fun scenario => { scenario, outcome := .skipped (halted.name ++ " failed") }

/-- The records of the scenarios, up to the first that fails and with those after it skipped. -/
def records (config : RunConfig) (pair : SessionPair ω) : List Scenario → RunM ω (List ScenarioRecord)
  | [] => return []
  | scenario :: rest => do
    match ← execute config pair scenario with
    | .ok (baseline, current) =>
      let later ← records config pair rest
      return { scenario, outcome := .passed, baselineItems := some baseline, currentItems := some current } :: later
    | .error mishap => return mishap.record scenario :: skip scenario rest

def sessions (config : RunConfig) (image : String) (pair : SessionPair ω) : RunM ω ImageSummary :=
  ImageSummary.ofRecords image <$> records config pair config.scenarios

/-- Opens both sessions over the bytes of an image, runs every configured scenario, and gives the sessions back. -/
def image (config : RunConfig) (name : String) (dispensers : DispenserPair ω) (bytes : Bytes) : RunM ω ImageSummary :=
  OptionT.mk fun state =>
    match dispensers.openScope bytes state with
    | (.error failure, state) => (some (.openFailed name failure), state)
    | (.ok pair, state) =>
      let (summary, state) := (sessions config name pair).run state
      (summary, pair.release state)

end Run

end MetaParity
