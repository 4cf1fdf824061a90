import MetaParity.Proofs.Except
import MetaParity.Settings

/-! # What settings are accepted

How settings come to load: the settings file is read, the arguments are resolved over it, and what comes out can be
followed. A verification that loads has a scenario to run. -/

namespace MetaParity

variable {files : Files} {given : Settings.Arguments} {settings : Settings} {verify : VerifySettings}
  {perf : PerfSettings}

namespace Settings

theorem firstGiven_ne_nil {α : Type} {given file : List α} (h : file ≠ []) : firstGiven given file ≠ [] := by
  unfold firstGiven
  split
  · exact h
  · next hgiven => simpa using hgiven

theorem load_eq_ok_iff : load files given = .ok settings ↔
    ∃ file, fileOf files given = .ok file ∧ resolve given file = .ok settings ∧ validate settings files = .ok () := by
  unfold load
  simp only [bind_eq_ok_iff, pure_eq_ok_iff]
  constructor
  · rintro ⟨file, hfile, _, hresolve, ⟨⟩, hvalidate, rfl⟩
    exact ⟨file, hfile, hresolve, hvalidate⟩
  · rintro ⟨file, hfile, hresolve, hvalidate⟩
    exact ⟨file, hfile, settings, hresolve, (), hvalidate, rfl⟩

theorem resolveVerify_eq_ok {given : VerifyArguments} {file : SettingsFile} {verify : VerifySettings}
    (h : resolveVerify given file = .ok verify) :
    ∃ baseline current, resolveFactory .baseline given.baseline file.baseline = some baseline ∧
      resolveFactory .current given.current file.current = some current ∧
      { images := firstGiven given.images file.verify.images
        imagesDirectory := (given.imagesDirectory <|> file.verify.imagesDirectory) <|>
          if (firstGiven given.images file.verify.images).isEmpty then libraryDirectory? baseline else none
        baseline
        current
        run :=
          { bufferCapacity := (given.bufferCapacity <|> file.verify.bufferCapacity).getD Lister.standardCapacity
            strictReset := given.strictReset || file.verify.strictReset.getD false
            scenarios := firstGiven (firstGiven given.scenarios file.verify.scenarios) Scenario.all }
        failFast := given.failFast || file.verify.failFast.getD false
        format := (given.format <|> file.verify.format).getD .human
        output := given.output <|> file.verify.output
        showPassed := given.showPassed || file.verify.showPassed.getD false } = verify := by
  unfold resolveVerify at h
  split at h
  · next baseline hbaseline =>
      split at h
      · next current hcurrent =>
          refine ⟨baseline, current, hbaseline, hcurrent, ?_⟩
          dsimp only at h
          split at h
          · next hderived =>
              obtain ⟨hempty, hnamed⟩ := Bool.and_eq_true_iff.mp hderived
              split at h
              · next directory hdirectory =>
                  cases h
                  rw [Option.isNone_iff_eq_none.mp hnamed, if_pos hempty, hdirectory]
                  rfl
              · cases h
          · next hgiven =>
              cases h
              congr 1
              cases hnamed : (given.imagesDirectory <|> file.verify.imagesDirectory) with
              | some directory => rfl
              | none =>
                  rw [hnamed, Option.isNone_none, Bool.and_true] at hgiven
                  rw [if_neg hgiven]
                  rfl
      · cases h
  · cases h

theorem resolvePerf_eq_ok {given : PerfArguments} {file : SettingsFile} {perf : PerfSettings}
    (h : resolvePerf given file = .ok perf) :
    ∃ image, (given.image <|> file.perf.image <|> ((resolveFactory .baseline given.baseline file.baseline).bind
        libraryDirectory?).map (Path.join · coreImageName)) = some image ∧
      { library := (given.library <|> file.perf.library).getD standardLibrary
        image
        baseline := resolveFactory .baseline given.baseline file.baseline
        warmup := (given.warmup <|> file.perf.warmup).getD Benchmark.standardWarmup
        iterations := (given.iterations <|> file.perf.iterations).getD Benchmark.standardIterations
        workloads := firstGiven given.workloads file.perf.workloads
        json := given.json <|> file.perf.json } = perf := by
  unfold resolvePerf at h
  dsimp only at h
  split at h
  · next image himage =>
      cases h
      exact ⟨image, himage, rfl⟩
  · cases h

/-- What a command is resolved to over a settings file: a verification for a verification, a benchmark for a benchmark. -/
inductive Resolves (file : SettingsFile) : Command → Mode → Prop where
  | verify {arguments : VerifyArguments} {settings : VerifySettings} : resolveVerify arguments file = .ok settings →
      Resolves file (.verify arguments) (.verify settings)
  | perf {arguments : PerfArguments} {settings : PerfSettings} : resolvePerf arguments file = .ok settings →
      Resolves file (.perf arguments) (.perf settings)

theorem resolve_eq_ok {file : SettingsFile} (h : resolve given file = .ok settings) :
    ∃ mode, Resolves file given.command mode ∧
      { verbosity := if 0 < given.verbose then given.verbose else file.verbose.getD 0
        logFormat := (given.logFormat <|> file.logFormat).getD .text
        color := (given.color <|> file.color).getD .auto
        mode } = settings := by
  unfold resolve at h
  cases hcommand : given.command with
  | verify arguments =>
      simp only [hcommand, bind_eq_ok_iff, map_eq_ok_iff, pure_eq_ok_iff] at h
      obtain ⟨_, ⟨verify, hverify, rfl⟩, hsettings⟩ := h
      exact ⟨_, .verify hverify, hsettings⟩
  | perf arguments =>
      simp only [hcommand, bind_eq_ok_iff, map_eq_ok_iff, pure_eq_ok_iff] at h
      obtain ⟨_, ⟨perf, hperf, rfl⟩, hsettings⟩ := h
      exact ⟨_, .perf hperf, hsettings⟩

theorem resolveVerify_of_resolve {file : SettingsFile} (h : resolve given file = .ok settings)
    (hmode : settings.mode = .verify verify) : ∃ arguments, resolveVerify arguments file = .ok verify := by
  obtain ⟨mode, hresolves, rfl⟩ := resolve_eq_ok h
  obtain rfl : mode = .verify verify := hmode
  generalize given.command = command at hresolves
  cases hresolves with
  | verify hverify => exact ⟨_, hverify⟩

theorem scenarios_ne_nil_of_resolveVerify {arguments : VerifyArguments} {file : SettingsFile}
    (h : resolveVerify arguments file = .ok verify) : verify.run.scenarios ≠ [] := by
  have hall : Scenario.all ≠ [] := by decide
  obtain ⟨baseline, current, -, -, rfl⟩ := resolveVerify_eq_ok h
  exact firstGiven_ne_nil hall

theorem scenarios_ne_nil_of_load (h : load files given = .ok settings) (hmode : settings.mode = .verify verify) :
    verify.run.scenarios ≠ [] := by
  obtain ⟨file, -, hresolve, -⟩ := load_eq_ok_iff.mp h
  obtain ⟨arguments, hverify⟩ := resolveVerify_of_resolve hresolve hmode
  exact scenarios_ne_nil_of_resolveVerify hverify

end Settings

end MetaParity
