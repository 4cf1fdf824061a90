import MetaParity.Benchmark
import MetaParity.Document
import MetaParity.Files
import MetaParity.Run
import MetaParity.Settings.File

/-!
# Settings

The settings of one invocation. Every one of them comes from the first source that gives it: the command line, the
environment, the settings file, the value used otherwise.
-/

namespace MetaParity

open Settings

structure VerifySettings where
  /-- Images that must be there. -/
  images : List String
  imagesDirectory : Option String
  baseline : Native.Factory
  current : Native.Factory
  run : RunConfig
  failFast : Bool
  format : ReportFormat
  output : Option String
  showPassed : Bool
deriving DecidableEq

structure PerfSettings where
  library : String
  image : String
  baseline : Option Native.Factory
  warmup : Int32
  iterations : Int32
  /-- The workloads to keep; none keeps all. -/
  workloads : List Workload
  json : Option String
deriving DecidableEq

inductive Mode where
  | verify (settings : VerifySettings)
  | perf (settings : PerfSettings)
deriving DecidableEq

structure Settings where
  verbosity : Nat
  logFormat : LogFormat
  color : ColorMode
  mode : Mode
deriving DecidableEq

inductive SettingsError where
  | unreadable (path : String) (error : FileError)
  | unparsable (path : String)
  | missingLibrary (side : Side)
  | noImages
  | missingPerfImage
  | invalidCapacity (capacity : Nat)
  | invalidIterations (pass : String) (count : Int32)
  | notFound (what : String) (path : String)
  | notADirectory (path : String)
deriving DecidableEq, Inhabited

def SettingsError.message : SettingsError → String
  | unreadable path error => s!"failed to read config file {path}: {error.message}"
  | unparsable path => s!"invalid config file {path}"
  | missingLibrary side =>
    "no " ++ side.name ++ " library given (use --" ++ side.name ++ "-lib or `library` under [" ++ side.name
      ++ "] in the config file)"
  | noImages => "no images given (pass image paths, --images-dir or a baseline library path)"
  | missingPerfImage => "no image given for perf (use --image or --baseline-lib)"
  | invalidCapacity capacity => s!"buffer capacity must be at least 1, got {Nat.repr capacity}"
  | invalidIterations pass count => s!"{pass} iteration count out of range: {Document.integerText count.toInt}"
  | notFound what path => s!"{what} not found: {path}"
  | notADirectory path => s!"images directory is not a directory: {path}"

def SettingsError.explanation : SettingsError → String
  | unreadable path error => s!"{(unreadable path error).message}: {error.message}"
  | error => error.message

namespace Settings

def SettingsFile.load (files : Files) (path : String) : Except SettingsError SettingsFile :=
  match files.readText path with
  | .error error => .error (.unreadable path error)
  | .ok text =>
    match SettingsFile.parse? text with
    | some file => .ok file
    | none => .error (.unparsable path)

/-- The dispenser factory of a side; there is none unless a library is named. -/
def resolveFactory (side : Side) (given file : FactoryChoice) : Option Native.Factory :=
  (given.library <|> file.library).map fun library =>
    let standard := Native.Factory.ofSide side library
    { library
      symbol := (given.symbol <|> file.symbol).getD standard.symbol
      abi := (given.abi <|> file.abi).getD standard.abi }

def firstGiven (given file : List α) : List α :=
  if given.isEmpty then file else given

/-- The directory of a library whose path names one. -/
def libraryDirectory? (factory : Native.Factory) : Option String :=
  (Path.parent? factory.library).filter (· ≠ "")

/-- The settings of a verification. Without images or a directory, those beside the baseline library are meant. -/
def resolveVerify (given : VerifyArguments) (file : SettingsFile) : Except SettingsError VerifySettings := do
  let some baseline := resolveFactory .baseline given.baseline file.baseline
    | throw (.missingLibrary .baseline)
  let some current := resolveFactory .current given.current file.current
    | throw (.missingLibrary .current)
  let images := firstGiven given.images file.verify.images
  let named := given.imagesDirectory <|> file.verify.imagesDirectory
  let imagesDirectory ←
    if images.isEmpty && named.isNone then
      match libraryDirectory? baseline with
      | some directory => pure (some directory)
      | none => throw .noImages
    else pure named
  let scenarios := firstGiven given.scenarios file.verify.scenarios
  return {
    images
    imagesDirectory
    baseline
    current
    run :=
      { bufferCapacity := (given.bufferCapacity <|> file.verify.bufferCapacity).getD Lister.standardCapacity
        strictReset := given.strictReset || file.verify.strictReset.getD false
        scenarios := firstGiven scenarios Scenario.all }
    failFast := given.failFast || file.verify.failFast.getD false
    format := (given.format <|> file.verify.format).getD .human
    output := given.output <|> file.verify.output
    showPassed := given.showPassed || file.verify.showPassed.getD false }

/-- The file name of the image that is measured unless told otherwise; it lies beside the baseline library. -/
def coreImageName : String := "System.Private.CoreLib.dll"

def standardLibrary : String := "libregnative.so"

def resolvePerf (given : PerfArguments) (file : SettingsFile) : Except SettingsError PerfSettings := do
  let baseline := resolveFactory .baseline given.baseline file.baseline
  let beside := (baseline.bind libraryDirectory?).map (Path.join · coreImageName)
  let some image := given.image <|> file.perf.image <|> beside
    | throw .missingPerfImage
  return {
    library := (given.library <|> file.perf.library).getD standardLibrary
    image
    baseline
    warmup := (given.warmup <|> file.perf.warmup).getD Benchmark.standardWarmup
    iterations := (given.iterations <|> file.perf.iterations).getD Benchmark.standardIterations
    workloads := firstGiven given.workloads file.perf.workloads
    json := given.json <|> file.perf.json }

def resolve (given : Arguments) (file : SettingsFile) : Except SettingsError MetaParity.Settings := do
  let mode ← match given.command with
    | .verify arguments => Mode.verify <$> resolveVerify arguments file
    | .perf arguments => Mode.perf <$> resolvePerf arguments file
  return {
    verbosity := if 0 < given.verbose then given.verbose else file.verbose.getD 0
    logFormat := (given.logFormat <|> file.logFormat).getD .text
    color := (given.color <|> file.color).getD .auto
    mode }

/-- What the settings file that arguments name says; without one, nothing. -/
def fileOf (files : Files) (given : Arguments) : Except SettingsError SettingsFile :=
  match given.config with
  | some path => SettingsFile.load files path
  | none => .ok {}

end Settings

namespace VerifySettings

def validate (settings : VerifySettings) (files : Files) : Except SettingsError Unit := do
  if settings.run.bufferCapacity = 0 then throw (.invalidCapacity settings.run.bufferCapacity)
  if let some directory := settings.imagesDirectory then
    if !files.contains directory then throw (.notFound "images directory" directory)
    if !files.isDirectory directory then throw (.notADirectory directory)
  match settings.images.find? fun path => !files.contains path with
  | some path => throw (.notFound "image" path)
  | none => return ()

end VerifySettings

namespace PerfSettings

def validate (settings : PerfSettings) (files : Files) : Except SettingsError Unit := do
  if settings.warmup < 0 then throw (.invalidIterations "warm-up" settings.warmup)
  if settings.iterations < 1 then throw (.invalidIterations "measured" settings.iterations)
  if !files.contains settings.image then throw (.notFound "image" settings.image)

end PerfSettings

namespace Settings

def validate (settings : MetaParity.Settings) (files : Files) : Except SettingsError Unit :=
  match settings.mode with
  | .verify verify => verify.validate files
  | .perf perf => perf.validate files

/-- The settings that arguments make up, with the settings file they name; they can be followed. -/
def load (files : Files) (given : Arguments) : Except SettingsError MetaParity.Settings := do
  let settings ← resolve given (← fileOf files given)
  validate settings files
  return settings

def describeFactory (side : Side) (factory : Native.Factory) : String :=
  s!"{side.name}: {factory.library} ({factory.symbol}, {factory.abi.name})"

def describeMode : Mode → List String
  | .verify settings =>
    describeFactory .baseline settings.baseline :: describeFactory .current settings.current
      :: settings.imagesDirectory.toList.map ("Images dir: " ++ ·)
      ++ [s!"Explicit images: {Nat.repr settings.images.length}",
        s!"Buffer capacity: {Nat.repr settings.run.bufferCapacity}",
        s!"Scenarios: {Nat.repr settings.run.scenarios.length}",
        "Strict reset: " ++ if settings.run.strictReset then "true" else "false"]
  | .perf settings =>
    let count (n : Int32) : String := Document.integerText n.toInt
    [s!"Library: {settings.library}", s!"Image: {settings.image}"]
      ++ settings.baseline.toList.map (describeFactory .baseline)
      ++ [s!"Iterations: {count settings.iterations} (warm-up {count settings.warmup})"]

def describe (settings : MetaParity.Settings) : String :=
  "\n".intercalate ([s!"Verbosity: {Nat.repr settings.verbosity}", s!"Log format: {settings.logFormat.title}",
    s!"Color: {settings.color.title}"] ++ describeMode settings.mode)

end Settings

end MetaParity
