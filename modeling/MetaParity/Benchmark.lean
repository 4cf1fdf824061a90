import MetaParity.Failure

/-!
# Benchmark passes

A pass calls the entry points of every workload once, baseline then current, reports every call, and ends at the first
failure.
-/

namespace MetaParity.Benchmark

def standardWarmup : Int32 := 100

def standardIterations : Int32 := 100000

/-- A workload with the entry points of both sides, which take an iteration count and answer a status. -/
structure Entry (ω : Type) where
  workload : Workload
  invoke : Side → Int32 → ω → Status × ω

/-- The entries whose workloads are listed; an empty list keeps all of them. -/
def retain (entries : List (Entry ω)) (only : List Workload) : List (Entry ω) :=
  if only.isEmpty then entries else entries.filter (·.workload ∈ only)

/-- The progress of a pass. Durations count nanoseconds; whoever holds a clock fills them in. -/
inductive Event where
  | started (workload : Workload)
  /-- A call returned; this is reported before its status is looked at. -/
  | timed (workload : Workload) (side : Side) (elapsed : Nat) (status : Status)
deriving DecidableEq

structure Measurement where
  workload : Workload
  iterations : Int32
  baselineTime : Float
  currentTime : Float

/-- How many times as long the current side took; nothing if the baseline took no measurable time. -/
def Measurement.ratio? (measurement : Measurement) : Option Float :=
  if measurement.baselineTime > 0 then some (measurement.currentTime / measurement.baselineTime) else none

def milliseconds (nanoseconds : Nat) : Float :=
  let seconds := nanoseconds / 1000000000
  (Float.ofNat seconds + Float.ofNat (nanoseconds % 1000000000) / 1e9) * 1000

structure Pass where
  events : List Event
  result : Except Failure (List Measurement)

namespace Pass

def done : Pass := ⟨[], .ok []⟩

def failed (workload : Workload) (side : Side) (status : Status) : Pass :=
  ⟨[], .error (.benchmarkFailed workload side status)⟩

def after (event : Event) (pass : Pass) : Pass :=
  { pass with events := event :: pass.events }

def measured (measurement : Measurement) (pass : Pass) : Pass :=
  { pass with result := pass.result.map (measurement :: ·) }

end Pass

def call (entry : Entry ω) (side : Side) (iterations : Int32) (next : ω → Pass × ω) (state : ω) : Pass × ω :=
  let (status, state) := entry.invoke side iterations state
  let (rest, state) := if status.isFailure then (Pass.failed entry.workload side status, state) else next state
  (rest.after (.timed entry.workload side 0 status), state)

/-- Calls both sides of every entry in turn. -/
def pass (iterations : Int32) : List (Entry ω) → ω → Pass × ω
  | [], state => (.done, state)
  | entry :: rest, state =>
    let (both, state) :=
      call entry .baseline iterations (call entry .current iterations fun state =>
        let (later, state) := pass iterations rest state
        (later.measured ⟨entry.workload, iterations, 0, 0⟩, state)) state
    (both.after (.started entry.workload), state)

end MetaParity.Benchmark
