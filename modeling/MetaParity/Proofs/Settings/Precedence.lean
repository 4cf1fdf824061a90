import MetaParity.Proofs.Settings
import MetaParity.Proofs.Settings.Layers

/-! # The first source wins

Settings that load take each value from the first source that gives one: the command line, the environment, the settings
file, and the value used otherwise. One switch is the exception: any source may switch it on. -/

namespace MetaParity

def Mode.verify? : Mode → Option VerifySettings
  | verify settings => some settings
  | perf _ => none

def Mode.perf? : Mode → Option PerfSettings
  | verify _ => none
  | perf settings => some settings

def Mode.factory? : Mode → Side → Option Native.Factory
  | verify settings, .baseline => some settings.baseline
  | verify settings, .current => some settings.current
  | perf settings, .baseline => settings.baseline
  | perf _, .current => none

namespace Settings

namespace Setting

/-! ## Settings that were resolved -/

def of (settings : MetaParity.Settings) : (setting : Setting) → Option setting.Value
  | verbosity => some settings.verbosity
  | logFormat => some settings.logFormat
  | color => some settings.color
  | library side => (settings.mode.factory? side).map (·.library)
  | symbol side => (settings.mode.factory? side).map (·.symbol)
  | abi side => (settings.mode.factory? side).map (·.abi)
  | images => settings.mode.verify?.bind fun verify => listed verify.images
  | imagesDirectory => settings.mode.verify?.bind (·.imagesDirectory)
  | bufferCapacity => settings.mode.verify?.map (·.run.bufferCapacity)
  | scenarios => settings.mode.verify?.map (·.run.scenarios)
  | strictReset => settings.mode.verify?.map (·.run.strictReset)
  | failFast => settings.mode.verify?.map (·.failFast)
  | format => settings.mode.verify?.map (·.format)
  | output => settings.mode.verify?.bind (·.output)
  | showPassed => settings.mode.verify?.map (·.showPassed)
  | perfLibrary => settings.mode.perf?.map (·.library)
  | perfImage => settings.mode.perf?.map (·.image)
  | warmup => settings.mode.perf?.map (·.warmup)
  | iterations => settings.mode.perf?.map (·.iterations)
  | workloads => settings.mode.perf?.bind fun perf => listed perf.workloads
  | json => settings.mode.perf?.bind (·.json)

/-- What a setting is set to if no source gives it. Two are derived from the directory of the baseline library. -/
def standard (settings : MetaParity.Settings) : (setting : Setting) → Option setting.Value
  | verbosity => some 0
  | logFormat => some .text
  | color => some .auto
  | symbol side => some (Native.Factory.ofSide side "").symbol
  | abi side => some (Native.Factory.ofSide side "").abi
  | imagesDirectory =>
    if (images.of settings).isNone then (settings.mode.factory? .baseline).bind libraryDirectory? else none
  | bufferCapacity => some Lister.standardCapacity
  | scenarios => some Scenario.all
  | strictReset | failFast | showPassed => some false
  | format => some .human
  | perfLibrary => some standardLibrary
  | perfImage => ((settings.mode.factory? .baseline).bind libraryDirectory?).map (Path.join · coreImageName)
  | warmup => some Benchmark.standardWarmup
  | iterations => some Benchmark.standardIterations
  | library _ | images | output | workloads | json => none

/-- Whether settings have a setting. A benchmark may go without a baseline; then there is no export to be found in one.
-/
def Applies (settings : MetaParity.Settings) : Setting → Prop
  | verbosity | logFormat | color | library .baseline => True
  | library .current => settings.mode.verify?.isSome
  | symbol side | abi side => (settings.mode.factory? side).isSome
  | images | imagesDirectory | bufferCapacity | scenarios | strictReset | failFast | format | output | showPassed =>
    settings.mode.verify?.isSome
  | perfLibrary | perfImage | warmup | iterations | workloads | json => settings.mode.perf?.isSome

end Setting

/-! ## Resolving one setting -/

section

variable {α : Type}

theorem some_getD_orElse (given file : Option α) (standard : α) :
    some ((given <|> file).getD standard) = (given <|> file <|> some standard) := by
  cases given <;> cases file <;> rfl

theorem orElse_eq_orElse_none (given file : Option α) : (given <|> file) = (given <|> file <|> none) := by
  cases given <;> cases file <;> rfl

theorem orElse_assoc_eq (given file standard : Option α) :
    ((given <|> file) <|> standard) = (given <|> file <|> standard) := by
  cases given <;> rfl

theorem isNone_listed (values : List α) : (listed values).isNone = values.isEmpty := by
  cases values <;> rfl

theorem listed_firstGiven (given file : List α) :
    listed (firstGiven given file) = (listed given <|> listed file <|> none) := by
  cases given <;> cases file <;> rfl

theorem some_firstGiven (given file standard : List α) :
    some (firstGiven (firstGiven given file) standard) = (listed given <|> listed file <|> some standard) := by
  cases given <;> cases file <;> rfl

theorem some_or_getD (given : Bool) (file : Option Bool) :
    some (given || file.getD false) = (switched given <|> file <|> some false) := by
  cases given <;> cases file <;> rfl

theorem some_or_getD_eq_true_iff (given : Bool) (file : Option Bool) :
    some (given || file.getD false) = some true ↔ switched given = some true ∨ file = some true := by
  rcases file with _ | _ | _ <;> cases given <;> simp [switched]

theorem ne_first_iff {commandLine environment file : Option Bool} {on : Bool} (hcommandLine : commandLine ≠ some false)
    (hon : some on = some true ↔ commandLine = some true ∨ environment = some true ∨ file = some true) :
    some on ≠ ((commandLine <|> environment <|> file) <|> some false) ↔
      commandLine = none ∧ environment = some false ∧ file = some true := by
  rcases commandLine with _ | _ | _ <;> rcases environment with _ | _ | _ <;> rcases file with _ | _ | _ <;> cases on <;>
    simp_all

theorem some_counted (given : Nat) (file : Option Nat) :
    some (if 0 < given then given else file.getD 0) = (counted given <|> file <|> some 0) := by
  cases given <;> cases file <;> rfl

end

theorem library_resolveFactory (side : Side) (given file : FactoryChoice) :
    (resolveFactory side given file).map (·.library) = (given.library <|> file.library <|> none) := by
  rw [resolveFactory, Option.map_map, ← orElse_eq_orElse_none]
  exact Option.map_id_apply

theorem exists_resolveFactory {side : Side} {given file : FactoryChoice} (h : (resolveFactory side given file).isSome) :
    ∃ library, resolveFactory side given file = some
      { library
        symbol := (given.symbol <|> file.symbol).getD (Native.Factory.ofSide side library).symbol
        abi := (given.abi <|> file.abi).getD (Native.Factory.ofSide side library).abi } := by
  obtain ⟨factory, hfactory⟩ := Option.isSome_iff_exists.mp h
  obtain ⟨library, -, rfl⟩ := Option.map_eq_some_iff.mp hfactory
  exact ⟨library, hfactory⟩

/-- The export of a factory does not depend on where the library is. -/
theorem symbol_resolveFactory {side : Side} {given file : FactoryChoice} (h : (resolveFactory side given file).isSome) :
    (resolveFactory side given file).map (·.symbol) =
      (given.symbol <|> file.symbol <|> some (Native.Factory.ofSide side "").symbol) := by
  obtain ⟨library, hfactory⟩ := exists_resolveFactory h
  rw [hfactory, ← some_getD_orElse]
  cases side <;> rfl

theorem abi_resolveFactory {side : Side} {given file : FactoryChoice} (h : (resolveFactory side given file).isSome) :
    (resolveFactory side given file).map (·.abi) =
      (given.abi <|> file.abi <|> some (Native.Factory.ofSide side "").abi) := by
  obtain ⟨library, hfactory⟩ := exists_resolveFactory h
  rw [hfactory, ← some_getD_orElse]
  cases side <;> rfl

theorem Resolves.factory?_baseline {file : SettingsFile} {command : Command} {mode : Mode}
    (h : Resolves file command mode) :
    mode.factory? .baseline = resolveFactory .baseline (command.factory .baseline) file.baseline := by
  cases h with
  | verify hverify =>
      obtain ⟨baseline, current, hbaseline, -, rfl⟩ := resolveVerify_eq_ok hverify
      exact hbaseline.symm
  | perf hperf =>
      obtain ⟨image, -, rfl⟩ := resolvePerf_eq_ok hperf
      rfl

namespace Setting

variable {given : Arguments} {file : SettingsFile} {settings : MetaParity.Settings}

theorem of_eq_of_shared (h : resolve given file = .ok settings) {setting : Setting} (happlies : setting.Applies settings)
    (hshared : setting.Shared) :
    setting.of settings = (setting.inArguments given <|> setting.inFile file <|> setting.standard settings) := by
  obtain ⟨mode, hresolves, rfl⟩ := resolve_eq_ok h
  have hbaseline := hresolves.factory?_baseline
  cases hshared with
  | verbosity => exact some_counted _ _
  | logFormat => exact some_getD_orElse _ _ _
  | color => exact some_getD_orElse _ _ _
  | library => exact (congrArg (Option.map Native.Factory.library) hbaseline).trans (library_resolveFactory _ _ _)
  | symbol =>
      exact (congrArg (Option.map Native.Factory.symbol) hbaseline).trans (symbol_resolveFactory (hbaseline ▸ happlies))
  | abi => exact (congrArg (Option.map Native.Factory.abi) hbaseline).trans (abi_resolveFactory (hbaseline ▸ happlies))

theorem of_eq_of_resolveVerify {arguments : VerifyArguments} {verify : VerifySettings}
    (hresolve : resolveVerify arguments file = .ok verify) (hcommand : given.command = .verify arguments)
    (hmode : settings.mode = .verify verify) {setting : Setting} (hown : setting.OfVerify)
    (hstrict : setting ≠ .strictReset) :
    setting.of settings = (setting.inArguments given <|> setting.inFile file <|> setting.standard settings) := by
  obtain ⟨baseline, current, hbaseline, hcurrent, rfl⟩ := resolveVerify_eq_ok hresolve
  obtain ⟨verbose, format, mode, config, command⟩ := given
  obtain ⟨verbosity, format', mode', mode⟩ := settings
  obtain rfl : command = _ := hcommand
  obtain rfl : mode = _ := hmode
  have hsome : (resolveFactory .current arguments.current file.current).isSome := hcurrent ▸ rfl
  cases hown with
  | library => exact (congrArg (Option.map Native.Factory.library) hcurrent).symm.trans (library_resolveFactory _ _ _)
  | symbol => exact (congrArg (Option.map Native.Factory.symbol) hcurrent).symm.trans (symbol_resolveFactory hsome)
  | abi => exact (congrArg (Option.map Native.Factory.abi) hcurrent).symm.trans (abi_resolveFactory hsome)
  | images => exact listed_firstGiven _ _
  | imagesDirectory =>
      refine (orElse_assoc_eq _ _ _).trans ?_
      rw [← isNone_listed]
      rfl
  | bufferCapacity => exact some_getD_orElse _ _ _
  | scenarios => exact some_firstGiven _ _ _
  | strictReset => exact absurd rfl hstrict
  | failFast => exact some_or_getD _ _
  | format => exact some_getD_orElse _ _ _
  | output => exact orElse_eq_orElse_none _ _
  | showPassed => exact some_or_getD _ _

theorem of_eq_of_resolvePerf {arguments : PerfArguments} {perf : PerfSettings}
    (hresolve : resolvePerf arguments file = .ok perf) (hcommand : given.command = .perf arguments)
    (hmode : settings.mode = .perf perf) {setting : Setting} (hown : setting.OfPerf) :
    setting.of settings = (setting.inArguments given <|> setting.inFile file <|> setting.standard settings) := by
  obtain ⟨image, himage, rfl⟩ := resolvePerf_eq_ok hresolve
  obtain ⟨verbose, format, mode, config, command⟩ := given
  obtain ⟨verbosity, format', mode', mode⟩ := settings
  obtain rfl : command = _ := hcommand
  obtain rfl : mode = _ := hmode
  cases hown with
  | perfLibrary => exact some_getD_orElse _ _ _
  | perfImage => exact himage.symm
  | warmup => exact some_getD_orElse _ _ _
  | iterations => exact some_getD_orElse _ _ _
  | workloads => exact listed_firstGiven _ _
  | json => exact orElse_eq_orElse_none _ _

theorem concerns_of_applies (h : resolve given file = .ok settings) {setting : Setting}
    (happlies : setting.Applies settings) : setting.Concerns given.command := by
  obtain ⟨mode, hresolves, rfl⟩ := resolve_eq_ok h
  generalize given.command = command at hresolves ⊢
  cases hresolves with
  | verify | perf =>
      cases setting with
      | library side | symbol side | abi side => cases side <;> trivial
      | _ => trivial

/-- What a setting is set to, but for one: the arguments come first, then the settings file. -/
theorem of_eq_of_resolve (h : resolve given file = .ok settings) {setting : Setting} (happlies : setting.Applies settings)
    (hstrict : setting ≠ .strictReset) :
    setting.of settings = (setting.inArguments given <|> setting.inFile file <|> setting.standard settings) := by
  have hconcerns := concerns_of_applies h happlies
  obtain ⟨mode, hresolves, hsettings⟩ := resolve_eq_ok h
  have hmode : settings.mode = mode := by rw [← hsettings]
  generalize hcommand : given.command = command at hresolves hconcerns
  cases hresolves with
  | verify hverify =>
      rcases hconcerns.shared_or_ofVerify with hshared | hown
      · exact of_eq_of_shared h happlies hshared
      · exact of_eq_of_resolveVerify hverify hcommand hmode hown hstrict
  | perf hperf =>
      rcases hconcerns.shared_or_ofPerf with hshared | hown
      · exact of_eq_of_shared h happlies hshared
      · exact of_eq_of_resolvePerf hperf hcommand hmode hown

theorem of_strictReset_iff (h : resolve given file = .ok settings) (happlies : strictReset.Applies settings) :
    strictReset.of settings = some true ↔
      strictReset.inArguments given = some true ∨ strictReset.inFile file = some true := by
  obtain ⟨mode, hresolves, rfl⟩ := resolve_eq_ok h
  generalize hcommand : given.command = command at hresolves
  cases hresolves with
  | verify hverify =>
      obtain ⟨baseline, current, -, -, rfl⟩ := resolveVerify_eq_ok hverify
      rw [inArguments, hcommand]
      exact some_or_getD_eq_true_iff _ _
  | perf hperf => cases happlies

theorem inArguments_strictReset_ne (given : Arguments) : strictReset.inArguments given ≠ some false := by
  rw [inArguments]
  cases given.command with
  | verify arguments => cases hswitch : arguments.strictReset <;> simp [Command.verify?, hswitch, switched]
  | perf arguments => simp [Command.verify?]

theorem exists_of_strictReset (happlies : strictReset.Applies settings) :
    ∃ on, strictReset.of settings = some on := by
  obtain ⟨verify, hverify⟩ := Option.isSome_iff_exists.mp happlies
  exact ⟨verify.run.strictReset, by rw [of, hverify, Option.map_some]⟩

/-- What the first source says that gives a setting. -/
def first (commandLine : Arguments) (defined : List (String × String)) (file : SettingsFile) (setting : Setting) :
    Option setting.Value :=
  setting.inArguments commandLine <|> setting.inEnvironment defined <|> setting.inFile file

theorem standard_eq {setting : Setting} (hderived : setting ≠ .imagesDirectory ∧ setting ≠ .perfImage)
    (settings settings' : MetaParity.Settings) : setting.standard settings = setting.standard settings' := by
  cases setting with
  | imagesDirectory => exact absurd rfl hderived.1
  | perfImage => exact absurd rfl hderived.2
  | _ => rfl

end Setting

/-! ## Settings that load -/

/-- Settings that load with what the command line says by itself and what the settings file says. -/
structure Loaded (files : Files) (words : List String) (defined : List (String × String)) (commandLine : Arguments)
    (file : SettingsFile) (settings : MetaParity.Settings) : Prop where
  parses : Arguments.parse words [] = .ok commandLine
  reads : fileOf files { commandLine with config := commandLine.config <|> defined.lookup "MDREGRESS_CONFIG" } = .ok file
  loads : ∃ arguments, Arguments.parse words defined = .ok arguments ∧ load files arguments = .ok settings

section

variable {files files' : Files} {words words' : List String} {defined defined' : List (String × String)}
  {arguments commandLine commandLine' : Arguments} {file file' : SettingsFile} {settings settings' : MetaParity.Settings}
  {setting : Setting}

theorem fileOf_congr {given given' : Arguments} (h : given.config = given'.config) :
    fileOf files given = fileOf files given' := by
  rw [fileOf, h, fileOf]

theorem exists_loaded (hparse : Arguments.parse words defined = .ok arguments) (hload : load files arguments = .ok settings) :
    ∃ commandLine file, Loaded files words defined commandLine file settings := by
  obtain ⟨commandLine, hcommandLine, hconfig, -⟩ := Arguments.exists_commandLine hparse
  obtain ⟨file, hfile, -⟩ := load_eq_ok_iff.mp hload
  exact ⟨commandLine, file, hcommandLine, (fileOf_congr hconfig.symm).trans hfile, arguments, hparse, hload⟩

namespace Loaded

theorem exists_arguments (h : Loaded files words defined commandLine file settings) :
    ∃ arguments, resolve arguments file = .ok settings ∧
      (∀ setting : Setting, setting.Concerns arguments.command → setting ≠ .strictReset →
        setting.inArguments arguments = (setting.inArguments commandLine <|> setting.inEnvironment defined)) ∧
      (Setting.strictReset.Concerns arguments.command → (Setting.strictReset.inArguments arguments = some true ↔
        Setting.strictReset.inArguments commandLine = some true ∨
          Setting.strictReset.inEnvironment defined = some true)) := by
  obtain ⟨arguments, hparse, hload⟩ := h.loads
  obtain ⟨commandLine', hcommandLine, hconfig, hlayers⟩ := Arguments.exists_commandLine hparse
  obtain rfl : commandLine' = commandLine := Except.ok.inj (hcommandLine.symm.trans h.parses)
  obtain ⟨file', hfile, hresolve, -⟩ := load_eq_ok_iff.mp hload
  have hreads := h.reads
  rw [fileOf_congr hconfig.symm, hfile] at hreads
  obtain rfl := Except.ok.inj hreads
  exact ⟨arguments, hresolve, hlayers⟩

theorem of_eq (h : Loaded files words defined commandLine file settings) (happlies : setting.Applies settings)
    (hstrict : setting ≠ .strictReset) :
    setting.of settings = (setting.first commandLine defined file <|> setting.standard settings) := by
  obtain ⟨arguments, hresolve, hlayers, -⟩ := h.exists_arguments
  rw [Setting.of_eq_of_resolve hresolve happlies hstrict,
    hlayers setting (Setting.concerns_of_applies hresolve happlies) hstrict, Setting.first]
  simp only [orElse_assoc_eq]

theorem of_strictReset_iff (h : Loaded files words defined commandLine file settings)
    (happlies : Setting.strictReset.Applies settings) :
    Setting.strictReset.of settings = some true ↔ Setting.strictReset.inArguments commandLine = some true ∨
      Setting.strictReset.inEnvironment defined = some true ∨ Setting.strictReset.inFile file = some true := by
  obtain ⟨arguments, hresolve, -, hlayers⟩ := h.exists_arguments
  rw [Setting.of_strictReset_iff hresolve happlies, hlayers (Setting.concerns_of_applies hresolve happlies), or_assoc]

theorem of_congr (h : Loaded files words defined commandLine file settings)
    (h' : Loaded files' words' defined' commandLine' file' settings') (happlies : setting.Applies settings)
    (happlies' : setting.Applies settings')
    (harguments : setting.inArguments commandLine = setting.inArguments commandLine')
    (henvironment : setting.inEnvironment defined = setting.inEnvironment defined')
    (hfile : setting.inFile file = setting.inFile file')
    (hderived : setting.first commandLine defined file ≠ none ∨ setting ≠ .imagesDirectory ∧ setting ≠ .perfImage) :
    setting.of settings = setting.of settings' := by
  by_cases hstrict : setting = .strictReset
  · subst hstrict
    have hiff := h.of_strictReset_iff happlies
    rw [harguments, henvironment, hfile, ← h'.of_strictReset_iff happlies'] at hiff
    obtain ⟨on, hon⟩ := Setting.exists_of_strictReset happlies
    obtain ⟨on', hon'⟩ := Setting.exists_of_strictReset happlies'
    rw [hon, hon'] at hiff ⊢
    exact congrArg some (Bool.eq_iff_iff.mpr (by simpa using hiff))
  · have hfirst : setting.first commandLine defined file = setting.first commandLine' defined' file' := by
      rw [Setting.first, harguments, henvironment, hfile, Setting.first]
    rw [h.of_eq happlies hstrict, h'.of_eq happlies' hstrict, ← hfirst]
    rcases hderived with hgiven | hderived
    · obtain ⟨value, hvalue⟩ := Option.ne_none_iff_exists'.mp hgiven
      rw [hvalue]
      rfl
    · rw [Setting.standard_eq hderived settings settings']

end Loaded

/-- Settings that load take each value from the first source that gives it: the command line, the environment, the
settings file, and what is used otherwise. The one exception is that a variable cannot switch strict resets off over the
settings file. -/
theorem precedence (hparse : Arguments.parse words defined = .ok arguments)
    (hload : load files arguments = .ok settings) :
    ∃ commandLine file, Loaded files words defined commandLine file settings ∧
      (∀ setting : Setting, setting.Applies settings →
        (setting.of settings = (setting.first commandLine defined file <|> setting.standard settings) ↔
          ¬(setting = .strictReset ∧ Setting.strictReset.inArguments commandLine = none ∧
            Setting.strictReset.inEnvironment defined = some false ∧ Setting.strictReset.inFile file = some true))) ∧
      (Setting.strictReset.Applies settings →
        (Setting.strictReset.of settings = some true ↔ Setting.strictReset.inArguments commandLine = some true ∨
          Setting.strictReset.inEnvironment defined = some true ∨ Setting.strictReset.inFile file = some true)) ∧
      ∀ files' words' defined' commandLine' file' settings',
        Loaded files' words' defined' commandLine' file' settings' →
        ∀ setting : Setting, setting.Applies settings → setting.Applies settings' →
          setting.inArguments commandLine = setting.inArguments commandLine' →
          setting.inEnvironment defined = setting.inEnvironment defined' →
          setting.inFile file = setting.inFile file' →
          setting.first commandLine defined file ≠ none ∨ setting ≠ .imagesDirectory ∧ setting ≠ .perfImage →
          setting.of settings = setting.of settings' := by
  obtain ⟨commandLine, file, h⟩ := exists_loaded hparse hload
  refine ⟨commandLine, file, h, ?_, h.of_strictReset_iff, ?_⟩
  · intro setting happlies
    by_cases hstrict : setting = .strictReset
    · subst hstrict
      obtain ⟨on, hon⟩ := Setting.exists_of_strictReset happlies
      have hiff := ne_first_iff (Setting.inArguments_strictReset_ne commandLine)
        (hon ▸ h.of_strictReset_iff happlies)
      rw [← hon] at hiff
      rw [← not_ne_iff]
      exact not_congr (hiff.trans (and_iff_right rfl).symm)
    · exact iff_of_true (h.of_eq happlies hstrict) fun hexception => hstrict hexception.1
  · intro files' words' defined' commandLine' file' settings' h' setting happlies happlies' harguments henvironment hfile
      hderived
    exact h.of_congr h' happlies happlies' harguments henvironment hfile hderived

end

/-- A command line over variables over a settings file, each of which gives something that a later one gives as well. -/
theorem precedence_four_sources :
    let words := ["--color", "never", "verify", "--baseline-lib", "a.so", "--format", "json", "--config", "c.toml"]
    let defined := [("MDREGRESS_COLOR", "always"), ("MDREGRESS_BASELINE_LIB", "z.so"), ("MDREGRESS_BUFFER_CAPACITY", "5")]
    let text := "[current]\nlibrary = \"b.so\"\n[verify]\nimages = [\"x.dll\"]\nbuffer_capacity = 7\nformat = \"human\"\n"
    let files : Files := .ofLists [] [("x.dll", [0x42, 0x53, 0x4a, 0x42]), ("c.toml", text.toUTF8.toList)]
    ∃ arguments settings, Arguments.parse words defined = .ok arguments ∧ load files arguments = .ok settings ∧
      Setting.color.of settings = some .never ∧ (Setting.library .baseline).of settings = some "a.so" ∧
      (Setting.library .current).of settings = some "b.so" ∧ Setting.bufferCapacity.of settings = some 5 ∧
      Setting.format.of settings = some .json ∧ Setting.images.of settings = some ["x.dll"] ∧
      Setting.scenarios.of settings = some Scenario.all ∧ Setting.strictReset.of settings ≠ some true := by
  intro words defined text files
  let commandLine : Arguments :=
    { color := some .never, config := some "c.toml",
      command := .verify { baseline := { library := some "a.so" }, format := some .json } }
  let arguments : Arguments :=
    { color := some .never, config := some "c.toml",
      command := .verify { baseline := { library := some "a.so" }, bufferCapacity := some 5, format := some .json } }
  let file : SettingsFile :=
    { current := { library := some "b.so" },
      verify := { images := ["x.dll"], bufferCapacity := some 7, format := some .human } }
  let settings : MetaParity.Settings :=
    { verbosity := 0, logFormat := .text, color := .never,
      mode := .verify
        { images := ["x.dll"], imagesDirectory := none, baseline := .ofSide .baseline "a.so",
          current := .ofSide .current "b.so", run := { bufferCapacity := 5 }, failFast := false, format := .json,
          output := none, showPassed := false } }
  have hparse : Arguments.parse words defined = .ok arguments := by decide +kernel
  have hload : load files arguments = .ok settings := by decide +kernel
  obtain ⟨commandLine', file', hloaded, hfirst, hstrict, -⟩ := precedence hparse hload
  have hcommandLine : Arguments.parse words [] = .ok commandLine := by decide +kernel
  have hfile : fileOf files commandLine = .ok file := by decide +kernel
  obtain rfl : commandLine = commandLine' := Except.ok.inj (hcommandLine.symm.trans hloaded.parses)
  obtain rfl : file = file' := Except.ok.inj (hfile.symm.trans hloaded.reads)
  have hof (setting : Setting) (happlies : setting.Applies settings) (hne : setting ≠ .strictReset) :
      setting.of settings = (setting.first commandLine defined file <|> setting.standard settings) :=
    (hfirst setting happlies).mpr fun hexception => hne hexception.1
  refine ⟨arguments, settings, hparse, hload, ?_, ?_, ?_, ?_, ?_, ?_, ?_, ?_⟩
  · exact hof .color trivial (by decide)
  · exact hof (.library .baseline) trivial (by decide)
  · exact hof (.library .current) rfl (by decide)
  · exact (hof .bufferCapacity rfl (by decide)).trans (by decide +kernel)
  · exact hof .format rfl (by decide)
  · exact hof .images rfl (by decide)
  · exact hof .scenarios rfl (by decide)
  · exact mt (hstrict rfl).mp (by decide +kernel)

/-- A variable switches strict resets off, and the settings file has its way all the same. -/
theorem strictReset_on_against_variable :
    let words := ["verify", "a.dll", "--baseline-lib", "a.so", "--current-lib", "b.so", "--config", "c.toml"]
    let defined := [("MDREGRESS_STRICT_RESET", "false")]
    let files : Files :=
      .ofLists [] [("a.dll", [0x42, 0x53, 0x4a, 0x42]), ("c.toml", "[verify]\nstrict_reset = true\n".toUTF8.toList)]
    ∃ commandLine file settings, Loaded files words defined commandLine file settings ∧
      Setting.strictReset.first commandLine defined file = some false ∧
      Setting.strictReset.of settings = some true := by
  intro words defined files
  let commandLine : Arguments :=
    { config := some "c.toml",
      command := .verify
        { images := ["a.dll"], baseline := { library := some "a.so" }, current := { library := some "b.so" } } }
  let settings : MetaParity.Settings :=
    { verbosity := 0, logFormat := .text, color := .auto,
      mode := .verify
        { images := ["a.dll"], imagesDirectory := none, baseline := .ofSide .baseline "a.so",
          current := .ofSide .current "b.so", run := { strictReset := true }, failFast := false, format := .human,
          output := none, showPassed := false } }
  have hloaded : Loaded files words defined commandLine { verify := { strictReset := some true } } settings :=
    ⟨by decide +kernel, by decide +kernel, commandLine, by decide +kernel, by decide +kernel⟩
  exact ⟨commandLine, _, settings, hloaded, by decide, rfl⟩

end Settings

end MetaParity
