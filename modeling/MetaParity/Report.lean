import MetaParity.Benchmark
import MetaParity.Native.Factory
import MetaParity.Run

/-!
# Reports

What a verification and a benchmark run produced. Both carry the time at which they were started as text.
-/

namespace MetaParity

structure VerifyReport where
  startedAt : String
  baseline : Native.Factory
  current : Native.Factory
  bufferCapacity : Nat
  strictReset : Bool
  passed : Nat := 0
  failed : Nat := 0
  images : List ImageSummary := []
deriving DecidableEq

namespace VerifyReport

def push (report : VerifyReport) (summary : ImageSummary) : VerifyReport :=
  { report with
    passed := if summary.isPass then report.passed + 1 else report.passed
    failed := if summary.isPass then report.failed else report.failed + 1
    images := report.images ++ [summary] }

/-- Whether no image failed, and there is one. -/
def isPass (report : VerifyReport) : Bool :=
  report.failed == 0 && !report.images.isEmpty

end VerifyReport

structure PerfReport where
  startedAt : String
  library : String
  image : String
  warmup : List Benchmark.Measurement := []
  measured : List Benchmark.Measurement := []

end MetaParity
