import MetaParity.Document
import MetaParity.Report

/-!
# Reports as documents

The JSON documents of reports. Members stand in a fixed order; durations are given in milliseconds.
-/

namespace MetaParity

open Document

def Native.Factory.document (factory : Factory) : Document :=
  object [("library", string factory.library), ("symbol", string factory.symbol), ("abi", string factory.abi.name)]

def Divergence.document (divergence : Divergence) : Document :=
  object [
    ("scenario", string divergence.scenario),
    ("index", nat divergence.index),
    ("baseline", ofOption string divergence.baseline),
    ("current", ofOption string divergence.current),
    ("baseline_len", nat divergence.baselineLength),
    ("current_len", nat divergence.currentLength),
    ("unified_diff", string divergence.unifiedDiff)]

def Outcome.document : Outcome → Document
  | passed => object [("status", string "passed")]
  | failed side reason divergence => object [
    ("status", string "failed"),
    ("side", ofOption (string ·.name) side),
    ("reason", string reason),
    ("divergence", ofOption (·.document) divergence)]
  | skipped reason => object [("status", string "skipped"), ("reason", string reason)]

def Report.duration (nanoseconds : Nat) : Document :=
  float (Benchmark.milliseconds nanoseconds)

def ScenarioRecord.document (record : ScenarioRecord) : Document :=
  object [
    ("scenario", string record.scenario.name),
    ("outcome", record.outcome.document),
    ("baseline_items", ofOption nat record.baselineItems),
    ("current_items", ofOption nat record.currentItems),
    ("duration_ms", Report.duration record.duration)]

def ImageSummary.document (summary : ImageSummary) : Document :=
  object [
    ("image", string summary.image),
    ("open_error", ofOption string summary.openError),
    ("passed", nat summary.passed),
    ("failed", nat summary.failed),
    ("skipped", nat summary.skipped),
    ("duration_ms", Report.duration summary.duration),
    ("records", array (summary.records.map (·.document)))]

def VerifyReport.document (report : VerifyReport) : Document :=
  object [
    ("generated_at", string report.startedAt),
    ("baseline", report.baseline.document),
    ("current", report.current.document),
    ("buffer_capacity", nat report.bufferCapacity),
    ("strict_reset", bool report.strictReset),
    ("passed", nat report.passed),
    ("failed", nat report.failed),
    ("images", array (report.images.map (·.document)))]

def Benchmark.Measurement.document (measurement : Measurement) : Document :=
  object [
    ("scenario", string measurement.workload.name),
    ("iterations", integer measurement.iterations.toInt),
    ("baseline_ms", float measurement.baselineTime),
    ("current_ms", float measurement.currentTime)]

def PerfReport.document (report : PerfReport) : Document :=
  object [
    ("generated_at", string report.startedAt),
    ("library", string report.library),
    ("image", string report.image),
    ("warmup", array (report.warmup.map (·.document))),
    ("measured", array (report.measured.map (·.document)))]

end MetaParity
