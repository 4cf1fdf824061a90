import MetaParity.Command
import MetaParity.Report.Json
import MetaParity.Report.Text
import MetaParity.Settings

/-!
# Verification

Both sides are driven over every image, one image after the other, and a report says whether they listed the same
throughout. A verification without images does not pass.
-/

namespace MetaParity

/-- The images of a verification: those that are named, which have to carry metadata, and those in the directory. -/
def VerifySettings.load (settings : VerifySettings) (files : Files) : Except ImageError (List Image) := do
  let named ← settings.images.mapM (Image.load files)
  match settings.imagesDirectory with
  | some directory => return named ++ (← Image.discover files directory)
  | none => return named

def VerifyReport.start (settings : VerifySettings) (startedAt : String) : VerifyReport where
  startedAt
  baseline := settings.baseline
  current := settings.current
  bufferCapacity := settings.run.bufferCapacity
  strictReset := settings.run.strictReset

def VerifyReport.console (report : VerifyReport) (format : Settings.ReportFormat) (showPassed : Bool) : Console :=
  match format with
  | .human => report.images.flatMap (·.report showPassed) ++ report.totals
  | .json => Console.line report.document.pretty

namespace Command

/-- Verifies image after image and adds each to the report. On request, the first one that fails is the last. -/
def verifyImages (config : RunConfig) (failFast : Bool) (dispensers : DispenserPair ω) (report : VerifyReport) :
    List Image → Run.RunM ω VerifyReport
  | [] => return report
  | image :: rest => do
    let summary ← Run.image config image.path dispensers image.metadata
    if failFast && !summary.isPass then return report.push summary
    else verifyImages config failFast dispensers (report.push summary) rest

/-- Verifies the images of some settings. A text file for the report is created before anything is verified, a document
only when it is complete. -/
def verifyWith (settings : VerifySettings) (startedAt : String) (dispensers : DispenserPair ω) :
    Action ω VerifyReport := do
  let images ← Action.ofExcept .image (settings.load (← get).files)
  if images.isEmpty then throw .noImages
  if settings.format = .human then settings.output.forM (Action.write · "")
  let report ← Action.drive
    (verifyImages settings.run settings.failFast dispensers (.start settings startedAt) images)
  Action.deliver settings.output (report.console settings.format settings.showPassed)
  return report

def withDispenser (libraries : Native.Libraries ω) (side : Side) (factory : Native.Factory)
    (action : Native.HeldDispenser ω → Action ω α) : Action ω α := do
  let dispenser ← Action.callOrEnd (.noDispenser side factory.library) (factory.acquire libraries side)
  Action.holding dispenser (action dispenser)

def verify (libraries : Native.Libraries ω) (settings : VerifySettings) (startedAt : String) :
    Action ω VerifyReport :=
  withDispenser libraries .baseline settings.baseline fun baseline =>
    withDispenser libraries .current settings.current fun current =>
      verifyWith settings startedAt ⟨baseline.toDispenser, current.toDispenser⟩

end Command

end MetaParity
