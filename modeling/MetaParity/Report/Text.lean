import MetaParity.Console
import MetaParity.Decimal
import MetaParity.Report
import MetaParity.Text.Basic

/-!
# Reports as text

How reports look on a console: a line for each image with the failure below it, the times of benchmark calls as they
are made, and a table of their ratios.
-/

namespace MetaParity

open MetaParity.Span

def Report.diffColor? (line : String) : Option Color :=
  match line.toList with
  | '+' :: '+' :: '+' :: _ | '-' :: '-' :: '-' :: _ => some .white
  | '+' :: _ => some .green
  | '-' :: _ => some .red
  | '@' :: '@' :: _ => some .cyan
  | _ => none

def Report.diffText (diff : String) : Console :=
  (Text.lines diff).flatMap fun line =>
    [plain "        ", match diffColor? line with
      | some color => painted color false line
      | none => plain line, plain "\n"]

/-- The lines about one scenario; one that passed is listed only on request. -/
def ScenarioRecord.report (showPassed : Bool) (record : ScenarioRecord) : Console :=
  match record.outcome with
  | .passed =>
    if showPassed then
      [plain "      ", painted .green false "ok",
        plain s!"    {record.scenario.name} ({Nat.repr (record.baselineItems.getD 0)} items)\n"]
    else []
  | .failed side reason divergence =>
    [plain "      ", painted .red false "failed", plain (match side with
      | some side => s!"  {record.scenario.name} on {side.name}: {reason}\n"
      | none => s!"  {reason}\n")]
      ++ (match divergence with
        | some divergence => Report.diffText divergence.unifiedDiff
        | none => [])
  | .skipped _ => []

namespace ImageSummary

def reportRecords (showPassed : Bool) (summary : ImageSummary) : Console :=
  summary.records.flatMap (·.report showPassed)
    ++ if 0 < summary.skipped then Console.line s!"      {Nat.repr summary.skipped} scenarios skipped" else []

def report (showPassed : Bool) (summary : ImageSummary) : Console :=
  if summary.isPass then
    let time := Decimal.fixedPlaces 1 (Benchmark.milliseconds summary.duration)
    painted .green true "PASS"
      :: plain s!"  {summary.image}  ({Nat.repr summary.passed} scenarios, {time} ms)\n"
      :: if showPassed then summary.reportRecords showPassed else []
  else
    painted .red true "FAIL"
      :: plain s!"  {summary.image}\n"
      :: match summary.openError with
        | some reason => Console.line s!"      open failed: {reason}"
        | none => summary.reportRecords showPassed

end ImageSummary

def VerifyReport.totals (report : VerifyReport) : Console :=
  let failed := s!"{Nat.repr report.failed} failed"
  [plain "\n", plain s!"{Nat.repr report.images.length} images: ",
    painted .green false s!"{Nat.repr report.passed} passed", plain ", ",
    if 0 < report.failed then painted .red true failed else plain failed, plain "\n"]

namespace Benchmark

def timeWidth : Nat := 12

def Event.report : Event → Console
  | .started workload => Console.line workload.name
  | .timed _ side elapsed status =>
    let label := match side with
      | .baseline => "Baseline:"
      | .current => "Current: "
    Console.line s!"  {label} {Text.alignRight timeWidth (Nat.repr (elapsed / 1000000))}"
      ++ if status.isFailure then [painted .red true s!"Failure {status.text}", plain "\n"] else []

def Measurement.report (measurement : Measurement) : Console :=
  let time (x : Float) := Text.alignRight timeWidth (Decimal.fixedPlaces 1 x)
  [plain (Text.alignLeft 26 measurement.workload.name ++ " " ++ time measurement.baselineTime ++ " "
      ++ time measurement.currentTime ++ " "),
    match measurement.ratio? with
    | some ratio =>
      painted (if ratio ≤ 1 then .green else .yellow) false (Text.alignRight 7 (Decimal.fixedPlaces 2 ratio) ++ "x")
    | none => plain (Text.alignRight 8 "n/a"), plain "\n"]

def summary (measurements : List Measurement) : Console :=
  Console.line ""
    ++ Console.line (Text.alignLeft 26 "Scenario" ++ " " ++ Text.alignRight timeWidth "Baseline ms" ++ " "
      ++ Text.alignRight timeWidth "Current ms" ++ " " ++ Text.alignRight 8 "Ratio")
    ++ measurements.flatMap (·.report)

end Benchmark

end MetaParity
