import MetaParity.Command
import MetaParity.Native.BenchmarkLibrary
import MetaParity.Report.Json
import MetaParity.Report.Text
import MetaParity.Settings

/-!
# Benchmark runs

A library's workloads are timed on both sides: a warm-up pass, then the measured one. The first call that fails ends
the run; the measurements are written to a file only when there are all of them.
-/

namespace MetaParity.Command

def timedPass (entries : List (Benchmark.Entry ω)) (iterations : Int32) :
    Action ω (List Benchmark.Measurement) := do
  let pass ← Action.call (Benchmark.pass iterations entries)
  Action.print (pass.events.flatMap (·.report))
  Action.ofExcept .benchmark pass.result

/-- Makes the warm-up pass, unless it is switched off, and the measured pass. -/
def timedPasses (settings : PerfSettings) (startedAt : String) (entries : List (Benchmark.Entry ω)) :
    Action ω PerfReport := do
  let mut warmup := []
  if 0 < settings.warmup then
    Action.print (Console.line "Warm-up")
    warmup ← timedPass entries settings.warmup
    Action.print (Console.line "")
  Action.print (Console.line s!"Run iterations - {Document.integerText settings.iterations.toInt}")
  let measured ← timedPass entries settings.iterations
  Action.print (Benchmark.summary measured)
  return { startedAt, library := settings.library, image := settings.image, warmup, measured }

/-- Prepares the benchmarks of a library, times those that are wanted, and writes the measurements to the file that is
named, if one is. -/
def perfWith (settings : PerfSettings) (startedAt : String) (library : Native.Library ω) (image : Image)
    (dispenser : Option Native.Pointer) : Action ω PerfReport := do
  Action.callOrEnd .benchmark (library.prepare image.metadata dispenser)
  let report ← timedPasses settings startedAt (Benchmark.retain library.benchmarks settings.workloads)
  settings.json.forM fun path => Action.write path (report.document.pretty ++ "\n")
  return report

def perf (libraries : Native.Libraries ω) (settings : PerfSettings) (startedAt : String) : Action ω PerfReport := do
  let library ← Action.ofExcept (.noBenchmarkLibrary settings.library)
    (Native.Library.loadBenchmarks libraries settings.library)
  let image ← Action.ofExcept .image (Image.load (← get).files settings.image)
  match settings.baseline with
  | none => perfWith settings startedAt library image none
  | some factory =>
    let dispenser ← Action.callOrEnd .noBenchmarkDispenser (factory.acquire libraries .baseline)
    Action.holding dispenser (perfWith settings startedAt library image dispenser.object)

end MetaParity.Command
