import MetaParity.Native.Library
import MetaParity.Native.Script
import MetaParity.Program
import MetaParity.Proofs.Command.Verify
import MetaParity.Proofs.Settings

/-! # What the exit status says

A verification ends with status zero if and only if it passes on the images that it finds, and there are some. -/

namespace MetaParity.Program

variable {ω : Type} {libraries : Native.Libraries ω} {invocation : Invocation} {arguments : Settings.Arguments}
  {settings : Settings} {verify : VerifySettings} {files : Files} {native : ω}

theorem run_of_parse (hparse : Settings.Arguments.parse invocation.words invocation.environment = .ok arguments) :
    run libraries invocation files native = runWith libraries invocation arguments files native := by
  rw [run, hparse]

theorem run_of_execute {result : Except CommandError Bool} {world : World ω}
    (hparse : Settings.Arguments.parse invocation.words invocation.environment = .ok arguments)
    (hload : Settings.load files arguments = .ok settings)
    (hexecute : (execute libraries settings invocation.startedAt).run { files, native } = (result, world)) :
    let ending := run libraries invocation files native
    (ending.exitCode = 0 ↔ result = .ok true) ∧ ending.files = world.files ∧
      ending.output = world.console.render (settings.color.colors invocation.showsColors) := by
  rw [run_of_parse hparse, runWith, hload]
  dsimp only
  rw [hexecute]
  refine ⟨?_, rfl, rfl⟩
  rcases result with error | _ | _ <;> simp [Id.run]

theorem execute_eq_ok_iff {startedAt : String} {passed : Bool} {world world' : World ω}
    (hmode : settings.mode = .verify verify) :
    (execute libraries settings startedAt).run world = (.ok passed, world') ↔
      ∃ report, (Command.verify libraries verify startedAt).run world = (.ok report, world') ∧
        report.isPass = passed := by
  unfold execute
  rw [hmode]
  simp only [Action.run_bind_eq_ok_iff, Action.run_pure_eq_ok_iff]
  constructor
  · rintro ⟨report, _, hverify, hpass, rfl⟩
    exact ⟨report, hverify, hpass⟩
  · rintro ⟨report, hverify, hpass⟩
    exact ⟨report, _, hverify, hpass, rfl⟩

/-- A verification whose report can be written ends with status zero if and only if it passes on the images that it
finds, and then its report has one entry for each of them. -/
theorem exitCode_eq_zero_iff
    (hparse : Settings.Arguments.parse invocation.words invocation.environment = .ok arguments)
    (hload : Settings.load files arguments = .ok settings) (hmode : settings.mode = .verify verify)
    (hwritable : Action.Writable files verify.output) :
    let ending := run libraries invocation files native
    (ending.exitCode = 0 ↔ ∃ images, verify.Passes libraries files native images) ∧
      ∀ images, verify.Passes libraries files native images → ∃ report world,
        (Command.verify libraries verify invocation.startedAt).run { files, native } = (.ok report, world) ∧
        List.Forall₂ (fun image summary => summary.Clean image.path verify.run.scenarios ∧ summary.records ≠ [])
          images report.images ∧
        let text := report.console verify.format verify.showPassed
        (verify.output = none → ending.output = text.render (settings.color.colors invocation.showsColors)) ∧
        ∀ path, verify.output = some path → ending.files.read path = .ok (text.render false).toUTF8.toList := by
  intro ending
  have hpasses (images : List Image) (h : verify.Passes libraries files native images) :=
    Command.exists_verify (w := { files, native }) hwritable h invocation.startedAt
  refine ⟨⟨?_, ?_⟩, ?_⟩
  · intro hzero
    rcases hexecute : (execute libraries settings invocation.startedAt).run { files, native } with ⟨result, world⟩
    obtain rfl := (run_of_execute hparse hload hexecute).1.mp hzero
    obtain ⟨report, hverify, hpass⟩ := (execute_eq_ok_iff hmode).mp hexecute
    exact Command.passes_of_verify (w := { files, native }) hwritable hverify hpass
  · rintro ⟨images, h⟩
    obtain ⟨report, world, hverify, hpass, -⟩ := hpasses images h
    exact (run_of_execute hparse hload ((execute_eq_ok_iff hmode).mpr ⟨report, hverify, hpass⟩)).1.mpr rfl
  · intro images h
    obtain ⟨report, world, hverify, hpass, hclean, hdelivered⟩ := hpasses images h
    obtain ⟨-, hfiles, houtput⟩ :=
      run_of_execute hparse hload ((execute_eq_ok_iff hmode).mpr ⟨report, hverify, hpass⟩)
    refine ⟨report, world, hverify, ?_, ?_, ?_⟩
    · refine hclean.imp ?_
      intro image summary hsummary
      refine ⟨hsummary, ?_⟩
      intro hnil
      have hscenarios := hsummary.scenarios_eq
      rw [hnil] at hscenarios
      exact Settings.scenarios_ne_nil_of_load hload hmode hscenarios.symm
    · intro hnone
      rw [houtput, hdelivered.console_eq, hnone]
      rfl
    · intro path hpath
      rw [hfiles]
      exact hdelivered.read_eq path hpath

/-- A verification of the images beside its baseline library, whose files stand there out of order, passes and reports
them by ascending name. -/
theorem exitCode_eq_zero_beside :
    let bytes : Bytes := [0x42, 0x53, 0x4a, 0x42]
    let files : Files := .ofLists [] [("lib/b.dll", bytes), ("lib/a.so", []), ("lib/a.dll", bytes)]
    let script : Native.Script := { listings := [(.typeDefs, .nil, [⟨0x02000002⟩])] }
    let libraries : Native.Libraries Native.ScriptState := fun _ => some script.component
    let invocation : Invocation :=
      { words := ["verify", "--baseline-lib", "lib/a.so", "--current-lib", "lib/b.so", "--output", "report.txt"]
        startedAt := "" }
    let verify : VerifySettings :=
      { images := [], imagesDirectory := some "lib", baseline := .ofSide .baseline "lib/a.so",
        current := .ofSide .current "lib/b.so", run := {}, failFast := false, format := .human,
        output := some "report.txt", showPassed := false }
    ∃ arguments settings, Settings.Arguments.parse invocation.words invocation.environment = .ok arguments ∧
      Settings.load files arguments = .ok settings ∧ settings.mode = .verify verify ∧
      Action.Writable files verify.output ∧ (run libraries invocation files {}).exitCode = 0 ∧
      ∃ report world, (Command.verify libraries verify "").run { files, native := {} } = (.ok report, world) ∧
        report.images.map (·.image) = ["lib/a.dll", "lib/b.dll"] := by
  intro bytes files script libraries invocation verify
  let arguments : Settings.Arguments :=
    { command := .verify { baseline := { library := some "lib/a.so" }, current := { library := some "lib/b.so" },
                           output := some "report.txt" } }
  let settings : Settings := { verbosity := 0, logFormat := .text, color := .auto, mode := .verify verify }
  have hparse : Settings.Arguments.parse invocation.words invocation.environment = .ok arguments := by rfl
  have hload : Settings.load files arguments = .ok settings := by rfl
  have hwritable : Action.Writable files verify.output := by
    rintro _ ⟨⟩
    exact ⟨["work", "report.txt"], by rfl⟩
  let images : List Image := ["lib/a.dll", "lib/b.dll"].map fun path => ⟨path, .raw, bytes, ⟨0, 4⟩⟩
  have hfinds : verify.Finds files images := by
    have hlists : files.Lists "lib" ["a.dll", "a.so", "b.dll"] :=
      ⟨["work", "lib"], by rfl, by decide +kernel, by decide +kernel⟩
    refine ⟨_, ⟨_, hlists, rfl⟩, ?_, by simp [verify], by decide +kernel⟩
    simp only [verify, List.nil_append, List.map_cons, List.map_nil, List.forall_mem_cons]
    exact ⟨⟨bytes, by rfl⟩, ⟨[], by rfl⟩, ⟨bytes, by rfl⟩, by simp⟩
  have hpasses : verify.Passes libraries files {} images := by
    let dispensers : DispenserPair Native.ScriptState :=
      ⟨script.component.dispenserOf .baseline ⟨1⟩, script.component.dispenserOf .current ⟨2⟩⟩
    have hfailed : ((Command.verifyImages verify.run false dispensers (.start verify "") images).run
        { objects := 2 }).1.map (·.failed) = some 0 := by
      decide +kernel
    rcases hrun : (Command.verifyImages verify.run false dispensers (.start verify "") images).run { objects := 2 } with
      ⟨_ | report, s₃⟩
    · simp [hrun] at hfailed
    · have hzero : report.failed = 0 := by simpa [hrun] using hfailed
      exact ⟨_, _, _, _, s₃, rfl, rfl, hfinds, by simp [images], (Command.along_of_verifyImages hrun hzero).2⟩
  obtain ⟨hzero, hreport⟩ :=
    @exitCode_eq_zero_iff _ libraries invocation arguments settings verify files {} hparse hload rfl hwritable
  obtain ⟨report, world, hverify, hsummaries, -⟩ := hreport images hpasses
  refine ⟨arguments, settings, hparse, hload, rfl, hwritable, hzero.mpr ⟨images, hpasses⟩, report, world, hverify, ?_⟩
  have himages : images.map (·.path) = report.images.map (·.image) := by
    rw [← List.forall₂_eq_eq_eq, List.forall₂_map_left_iff, List.forall₂_map_right_iff]
    exact hsummaries.imp fun image summary h => h.1.image_eq.symm
  rw [← himages]
  rfl

end MetaParity.Program
