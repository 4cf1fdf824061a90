import MetaParity.Command.Perf
import MetaParity.Command.Verify
import MetaParity.Settings.Usage

/-!
# The program

One invocation from its command line to its exit status. A refused command line ends it with the status of the refusal;
otherwise it succeeds when every image passes, or when every benchmark call goes well.
-/

namespace MetaParity

structure Invocation where
  words : List String
  environment : List (String × String) := []
  terminal : Bool := false
  startedAt : String

def Invocation.showsColors (invocation : Invocation) : Bool :=
  invocation.terminal && (invocation.environment.lookup "NO_COLOR").isNone
    && (invocation.environment.lookup "TERM").any (· ≠ "dumb")

structure Ending (ω : Type) where
  exitCode : Nat
  output : String := ""
  complaint : Option String := none
  files : Files
  native : ω

namespace Program

/-- Runs the command that settings call for; answers whether it was a success. -/
def execute (libraries : Native.Libraries ω) (settings : Settings) (startedAt : String) : Action ω Bool :=
  match settings.mode with
  | .verify verify => return (← Command.verify libraries verify startedAt).isPass
  | .perf perf => do
    let _ ← Command.perf libraries perf startedAt
    return true

def runWith (libraries : Native.Libraries ω) (invocation : Invocation) (arguments : Settings.Arguments) (files : Files)
    (native : ω) : Ending ω :=
  match Settings.load files arguments with
  | .error error => { exitCode := 1, complaint := some error.explanation, files, native }
  | .ok settings =>
    let (result, world) := ((execute libraries settings invocation.startedAt).run { files, native }).run
    { exitCode := if result matches .ok true then 0 else 1
      output := world.console.render (settings.color.colors invocation.showsColors)
      complaint := match result with
        | .error error => some error.message
        | .ok _ => none
      files := world.files
      native := world.native }

def run (libraries : Native.Libraries ω) (invocation : Invocation) (files : Files) (native : ω) : Ending ω :=
  match Settings.Arguments.parse invocation.words invocation.environment with
  | .ok arguments => runWith libraries invocation arguments files native
  | .error refusal =>
    { exitCode := refusal.exitCode
      output := match refusal with
        | .helpWanted => Settings.usage
        | .versionWanted => Settings.versionLine
        | _ => ""
      complaint := if refusal.exitCode = 0 then none else some refusal.message
      files
      native }

end Program

end MetaParity
