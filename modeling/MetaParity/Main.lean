import MetaParity.Program
import Std.Time

/-!
# The command line

Looks at the files that an invocation mentions, runs the program on them, and writes what it left behind. A loader for
native libraries is a parameter of the program; this command line has none, so it reports every library as missing.
-/

namespace MetaParity.CommandLine

def environmentNames : List String :=
  ["NO_COLOR", "TERM"]
    ++ (Settings.Level.verify.parameters ++ Settings.Level.perf.parameters).filterMap (·.environment)

def mentioned (settings : Settings) : List String :=
  match settings.mode with
  | .verify verify => verify.images ++ verify.imagesDirectory.toList ++ verify.output.toList
  | .perf perf => perf.image :: perf.json.toList

def placeOf (workingDirectory : Place) (path : String) : Place :=
  (if Path.isAbsolute path then [] else workingDirectory)
    ++ (Path.segments path).filter fun name => name ≠ "" ∧ name ≠ "."

def lookAt (path : String) : IO (Option Node) := do
  try
    let there := (← IO.currentDir) / path
    if ← there.isDir then return some .directory
    if ← there.pathExists then
      try return some (.file (← IO.FS.readBinFile there).toList)
      catch _ => return some .locked
    return none
  catch _ => return none

def namesIn (path : String) : IO (List String) := do
  try return (← ((← IO.currentDir) / path).readDir).toList.map (·.fileName)
  catch _ => return []

/-- Every path that leads along a path, the path itself included. -/
def along (path : String) : List String :=
  let segments := Path.segments path
  (List.range segments.length).map fun count => Path.ofSegments (segments.take (count + 1))

/-- The files with what stands at paths, on the way to them, and directly inside them. -/
def gather (files : Files) (paths : List String) : IO Files := do
  let mut files := files
  for path in paths do
    let inside := (← namesIn path).map (Path.join path)
    for path in along path ++ inside do
      if let some node ← lookAt path then
        let place := placeOf files.workingDirectory path
        files := { files with entries := (place, node) :: files.entries.filter (·.1 ≠ place) }
  return files

/-- Writes the files that are not as they were. -/
def save (before after : Files) : IO Unit := do
  for (place, node) in after.entries do
    if let .file bytes := node then
      if before.entries.lookup place ≠ some node then
        IO.FS.writeBinFile (Path.ofSegments ("" :: place)) ⟨bytes.toArray⟩

def timeText : IO String := do
  let now := Std.Time.DateTime.ofTimestamp (← Std.Time.Timestamp.now) Std.Time.TimeZone.ZoneRules.UTC
  return now.format "uuuu-MM-dd'T'HH:mm:ss.SSSSSSSSSxxx"

def run (words : List String) : IO UInt32 := do
  let output ← IO.getStdout
  let environment ← environmentNames.filterMapM fun name => return (← IO.getEnv name).map (name, ·)
  let invocation : Invocation :=
    { words, environment, terminal := ← output.isTty, startedAt := ← timeText }
  let mut files : Files := { workingDirectory := placeOf [] (← IO.currentDir).toString }
  if let .ok arguments := Settings.Arguments.parse words environment then
    files ← gather files arguments.config.toList
    if let .ok settings := Settings.fileOf files arguments >>= Settings.resolve arguments then
      files ← gather files (mentioned settings)
  let ending := Program.run (fun _ => none) invocation files ()
  save files ending.files
  output.putStr ending.output
  if let some complaint := ending.complaint then
    (← IO.getStderr).putStr s!"error: {complaint}\n"
  return .ofNat ending.exitCode

end MetaParity.CommandLine

def main (words : List String) : IO UInt32 :=
  MetaParity.CommandLine.run words
