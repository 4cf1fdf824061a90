import MetaParity.Proofs.Command.FailFast
import MetaParity.Proofs.Program

/-! # What does not change the verdict

Whether a verification stops at the first image that fails, in which form and where it reports, and what its lines show
does not change how it ends. -/

namespace MetaParity.Program

variable {ω : Type} {invocation : Invocation} {arguments : Settings.Arguments} {settings : Settings}
  {verify : VerifySettings}

section

variable (libraries : Native.Libraries ω) (files : Files) (native : ω)

theorem exitCode_le_one (hparse : Settings.Arguments.parse invocation.words invocation.environment = .ok arguments) :
    (run libraries invocation files native).exitCode ≤ 1 := by
  rw [run, hparse]
  dsimp only
  unfold runWith
  split
  · exact Nat.le_refl 1
  · dsimp only
    split <;> decide

theorem exitCode_eq_zero_iff_exists_passes
    (hparse : Settings.Arguments.parse invocation.words invocation.environment = .ok arguments)
    (hload : Settings.load files arguments = .ok settings) (hmode : settings.mode = .verify verify)
    (hwritable : Action.Writable files verify.output) :
    (run libraries invocation files native).exitCode = 0 ↔ ∃ images, verify.Passes libraries files native images := by
  rw [← Command.exists_isPass_iff { files, native } invocation.startedAt hwritable]
  rcases hexecute : (execute libraries settings invocation.startedAt).run { files, native } with ⟨result, world⟩
  rw [(run_of_execute hparse hload hexecute).1]
  constructor
  · rintro rfl
    obtain ⟨report, hverify, hpass⟩ := (execute_eq_ok_iff hmode).mp hexecute
    exact ⟨report, world, hverify, hpass⟩
  · rintro ⟨report, world', hverify, hpass⟩
    have hpassed := (execute_eq_ok_iff hmode).mpr ⟨report, hverify, hpass⟩
    rw [hexecute] at hpassed
    exact congrArg Prod.fst hpassed

end

/-- A run that stops early sums up the images up to the first that fails as a full run does, and both come to one
verdict. Neither that nor how its report is presented changes the status of an invocation. -/
theorem verdict_presentation {libraries : Native.Libraries ω} :
    (∀ (dispensers : DispenserPair ω) (config : RunConfig) (images : List Image) (settings settings' : VerifySettings)
        (startedAt startedAt' : String) (s s' : ω) (full : VerifyReport),
      (Command.verifyImages config false dispensers (.start settings startedAt) images).run s = (some full, s') →
      ∃ short s'',
        (Command.verifyImages config true dispensers (.start settings' startedAt') images).run s = (some short, s'') ∧
        short.images = throughFirstFailing full.images ∧ full.Counted ∧ short.Counted ∧ short.isPass = full.isPass) ∧
    ∀ (invocation invocation' : Invocation) (arguments arguments' : Settings.Arguments) (settings settings' : Settings)
        (verify : VerifySettings) (failFast : Bool) (format : Settings.ReportFormat) (output : Option String)
        (showPassed : Bool) (files : Files) (native : ω),
      Settings.Arguments.parse invocation.words invocation.environment = .ok arguments →
      Settings.load files arguments = .ok settings → settings.mode = .verify verify →
      Action.Writable files verify.output →
      Settings.Arguments.parse invocation'.words invocation'.environment = .ok arguments' →
      Settings.load files arguments' = .ok settings' →
      settings'.mode = .verify { verify with failFast, format, output, showPassed } → Action.Writable files output →
      (run libraries invocation files native).exitCode = (run libraries invocation' files native).exitCode := by
  constructor
  · intro dispensers config images settings settings' startedAt startedAt' s s' full hrun
    exact Command.exists_short_report hrun
  · intro invocation invocation' arguments arguments' settings settings' verify failFast format output showPassed files
      native hparse hload hmode hwritable hparse' hload' hmode' hwritable'
    have hzero := exitCode_eq_zero_iff_exists_passes libraries files native hparse hload hmode hwritable
    have hzero' := exitCode_eq_zero_iff_exists_passes libraries files native hparse' hload' hmode' hwritable'
    have hle := exitCode_le_one libraries files native hparse
    have hle' := exitCode_le_one libraries files native hparse'
    have hiff : (run libraries invocation files native).exitCode = 0 ↔
        (run libraries invocation' files native).exitCode = 0 := hzero.trans hzero'.symm
    omega

/-- Three images, of which the current side does not open the second: one verification prints lines about all, and one
stops there and writes a document. -/
theorem verdict_presentation_stopped :
    let bytes : Bytes := [0x42, 0x53, 0x4a, 0x42]
    let files : Files := .ofLists [] [("lib/a.dll", bytes), ("lib/b.dll", bytes ++ [0]), ("lib/c.dll", bytes)]
    let script : Native.Script := { listings := [(.typeDefs, .nil, [⟨0x02000002⟩])] }
    let closed : Native.Script := { script with openByLength := [(5, .fail)] }
    let libraries : Native.Libraries Native.ScriptState := fun path =>
      some (if path = "lib/a.so" then script.component else closed.component)
    let named := ["verify", "--baseline-lib", "lib/a.so", "--current-lib", "lib/b.so"]
    let invocation : Invocation := { words := named, startedAt := "" }
    let invocation' : Invocation :=
      { words := named ++ ["--fail-fast", "--format", "json", "--output", "report.json"], startedAt := "" }
    let verify : VerifySettings :=
      { images := [], imagesDirectory := some "lib", baseline := .ofSide .baseline "lib/a.so",
        current := .ofSide .current "lib/b.so", run := {}, failFast := false, format := .human, output := none,
        showPassed := false }
    let images : List Image :=
      [⟨"lib/a.dll", .raw, bytes, ⟨0, 4⟩⟩, ⟨"lib/b.dll", .raw, bytes ++ [0], ⟨0, 5⟩⟩, ⟨"lib/c.dll", .raw, bytes, ⟨0, 4⟩⟩]
    let dispensers : DispenserPair Native.ScriptState :=
      ⟨script.component.dispenserOf .baseline ⟨1⟩, closed.component.dispenserOf .current ⟨2⟩⟩
    (∃ arguments arguments' settings settings',
      Settings.Arguments.parse invocation.words invocation.environment = .ok arguments ∧
      Settings.load files arguments = .ok settings ∧ settings.mode = .verify verify ∧
      Action.Writable files verify.output ∧
      Settings.Arguments.parse invocation'.words invocation'.environment = .ok arguments' ∧
      Settings.load files arguments' = .ok settings' ∧
      settings'.mode = .verify { verify with failFast := true, format := .json, output := some "report.json" } ∧
      Action.Writable files (some "report.json") ∧
      (run libraries invocation files {}).exitCode = (run libraries invocation' files {}).exitCode) ∧
    ∃ full short s' s'',
      (Command.verifyImages {} false dispensers (.start verify "") images).run { objects := 2 } = (some full, s') ∧
      (Command.verifyImages {} true dispensers (.start verify "") images).run { objects := 2 } = (some short, s'') ∧
      short.images = throughFirstFailing full.images ∧ full.images.map (·.isPass) = [true, false, true] ∧
      short.passed = 1 ∧ short.failed = 1 := by
  intro bytes files script closed libraries named invocation invocation' verify images dispensers
  obtain ⟨hreports, hstatus⟩ := @verdict_presentation Native.ScriptState libraries
  constructor
  · let arguments : Settings.Arguments :=
      { command := .verify { baseline := { library := some "lib/a.so" }, current := { library := some "lib/b.so" } } }
    let arguments' : Settings.Arguments :=
      { command := .verify { baseline := { library := some "lib/a.so" }, current := { library := some "lib/b.so" },
                             failFast := true, format := some .json, output := some "report.json" } }
    let settings : Settings := { verbosity := 0, logFormat := .text, color := .auto, mode := .verify verify }
    let settings' : Settings :=
      { settings with
        mode := .verify { verify with failFast := true, format := .json, output := some "report.json" } }
    have hparse : Settings.Arguments.parse invocation.words invocation.environment = .ok arguments := by rfl
    have hload : Settings.load files arguments = .ok settings := by rfl
    have hwritable : Action.Writable files verify.output := by
      rintro _ ⟨⟩
    have hparse' : Settings.Arguments.parse invocation'.words invocation'.environment = .ok arguments' := by rfl
    have hload' : Settings.load files arguments' = .ok settings' := by rfl
    have hwritable' : Action.Writable files (some "report.json") := by
      rintro _ ⟨⟩
      exact ⟨["work", "report.json"], by rfl⟩
    exact ⟨arguments, arguments', settings, settings', hparse, hload, rfl, hwritable, hparse', hload', rfl, hwritable',
      hstatus invocation invocation' _ _ _ _ verify true .json (some "report.json") false files {} hparse hload rfl
        hwritable hparse' hload' rfl hwritable'⟩
  · have hpasses : ((Command.verifyImages {} false dispensers (.start verify "") images).run { objects := 2 }).1.map
        (fun report => report.images.map (·.isPass)) = some [true, false, true] := by
      decide +kernel
    rcases hrun : (Command.verifyImages {} false dispensers (.start verify "") images).run { objects := 2 } with
      ⟨_ | full, s'⟩
    · simp [hrun] at hpasses
    · have hfull : full.images.map (·.isPass) = [true, false, true] := by simpa [hrun] using hpasses
      obtain ⟨short, s'', hshort, himages, -⟩ := hreports dispensers {} images verify verify "" "" _ _ _ hrun
      have hcounts : ((Command.verifyImages {} true dispensers (.start verify "") images).run { objects := 2 }).1.map
          (fun report => (report.passed, report.failed)) = some (1, 1) := by
        decide +kernel
      obtain ⟨hpassed, hfailed⟩ : short.passed = 1 ∧ short.failed = 1 := by simpa [hshort] using hcounts
      exact ⟨full, short, s', s'', rfl, hshort, himages, hfull, hpassed, hfailed⟩

end MetaParity.Program
