import MetaParity.Benchmark
import MetaParity.Native.Library

/-!
# Benchmark libraries

A library that exports the benchmark workloads. All its exports are looked up when it is loaded, so one that is missing
is found before anything is timed.
-/

namespace MetaParity.Native

def prepareExport : String := "PerfInitialize"

/-- Every export that a benchmark library must have, in the order in which they are looked up. -/
def benchmarkExports : List String :=
  prepareExport :: Workload.all.flatMap fun workload => Side.all.map workload.exportName

def maxBenchmarkImage : Nat := 0x7fffffff

def Library.loadBenchmarks (libraries : Libraries ω) (path : String) : Except LibraryError (Library ω) := do
  let library ← Library.load libraries path
  benchmarkExports.forM library.require
  return library

/-- Hands the bytes of an image and a dispenser, or none, to the benchmarks. -/
def Library.prepare (library : Library ω) (image : Bytes) (dispenser : Option Pointer) (state : ω) :
    Except Failure Unit × ω :=
  if maxBenchmarkImage < image.length then (.error (.initializationFailed .invalidArgument), state)
  else
    let (reply, state) := library.component.answer (.prepare image (dispenser.getD .null)) state
    ((reply.status.toExcept).mapError .initializationFailed, state)

def Library.benchmarks (library : Library ω) : List (Benchmark.Entry ω) :=
  Workload.all.map fun workload =>
    { workload
      invoke := fun side iterations state =>
        let (reply, state) := library.component.answer (.benchmark (workload.exportName side) iterations) state
        (reply.status, state) }

end MetaParity.Native
