import MetaParity.Proofs.Settings.CommandLine
import MetaParity.Settings

/-! # Settings and where they come from

Each setting may be given on the command line, by an environment variable and in the settings file, and most have a value
that is used otherwise. What arguments say about a setting is what the command line says, or else the environment. -/

namespace MetaParity.Settings

/-! ## Settings one by one -/

inductive Setting where
  | verbosity
  | logFormat
  | color
  | library (side : Side)
  | symbol (side : Side)
  | abi (side : Side)
  | images
  | imagesDirectory
  | bufferCapacity
  | scenarios
  | strictReset
  | failFast
  | format
  | output
  | showPassed
  | perfLibrary
  | perfImage
  | warmup
  | iterations
  | workloads
  | json
deriving DecidableEq

namespace Setting

abbrev Value : Setting → Type
  | verbosity | bufferCapacity => Nat
  | logFormat => LogFormat
  | color => ColorMode
  | library _ | symbol _ | imagesDirectory | output | perfLibrary | perfImage | json => String
  | abi _ => Native.FactoryAbi
  | images => List String
  | scenarios => List Scenario
  | strictReset | failFast | showPassed => Bool
  | format => ReportFormat
  | warmup | iterations => Int32
  | workloads => List Workload

end Setting

/-- A list counts as given if it is not empty. -/
def listed {α : Type} : List α → Option (List α)
  | [] => none
  | values => some values

def switched : Bool → Option Bool
  | true => some true
  | false => none

def counted : Nat → Option Nat
  | 0 => none
  | count => some count

def Command.verify? : Command → Option VerifyArguments
  | verify arguments => some arguments
  | perf _ => none

def Command.perf? : Command → Option PerfArguments
  | verify _ => none
  | perf arguments => some arguments

/-- What is said about the factory of a side; a benchmark has a baseline only. -/
def Command.factory : Command → Side → FactoryChoice
  | verify arguments, .baseline => arguments.baseline
  | verify arguments, .current => arguments.current
  | perf arguments, .baseline => arguments.baseline
  | perf _, .current => {}

namespace Setting

/-! ## Layers -/

def inArguments (given : Arguments) : (setting : Setting) → Option setting.Value
  | verbosity => counted given.verbose
  | logFormat => given.logFormat
  | color => given.color
  | library side => (given.command.factory side).library
  | symbol side => (given.command.factory side).symbol
  | abi side => (given.command.factory side).abi
  | images => given.command.verify?.bind fun verify => listed verify.images
  | imagesDirectory => given.command.verify?.bind (·.imagesDirectory)
  | bufferCapacity => given.command.verify?.bind (·.bufferCapacity)
  | scenarios => given.command.verify?.bind fun verify => listed verify.scenarios
  | strictReset => given.command.verify?.bind fun verify => switched verify.strictReset
  | failFast => given.command.verify?.bind fun verify => switched verify.failFast
  | format => given.command.verify?.bind (·.format)
  | output => given.command.verify?.bind (·.output)
  | showPassed => given.command.verify?.bind fun verify => switched verify.showPassed
  | perfLibrary => given.command.perf?.bind (·.library)
  | perfImage => given.command.perf?.bind (·.image)
  | warmup => given.command.perf?.bind (·.warmup)
  | iterations => given.command.perf?.bind (·.iterations)
  | workloads => given.command.perf?.bind fun perf => listed perf.workloads
  | json => given.command.perf?.bind (·.json)

def inEnvironment (defined : List (String × String)) : (setting : Setting) → Option setting.Value
  | logFormat => (defined.lookup "MDREGRESS_LOG_FORMAT").bind LogFormat.ofName?
  | color => (defined.lookup "MDREGRESS_COLOR").bind ColorMode.ofName?
  | library .baseline => defined.lookup "MDREGRESS_BASELINE_LIB"
  | library .current => defined.lookup "MDREGRESS_CURRENT_LIB"
  | symbol .baseline => defined.lookup "MDREGRESS_BASELINE_SYMBOL"
  | symbol .current => defined.lookup "MDREGRESS_CURRENT_SYMBOL"
  | abi .baseline => (defined.lookup "MDREGRESS_BASELINE_ABI").bind fun text => (Native.FactoryAbi.parse text).toOption
  | abi .current => (defined.lookup "MDREGRESS_CURRENT_ABI").bind fun text => (Native.FactoryAbi.parse text).toOption
  | imagesDirectory => defined.lookup "MDREGRESS_IMAGES_DIR"
  | bufferCapacity => (defined.lookup "MDREGRESS_BUFFER_CAPACITY").bind capacity?
  | strictReset => (defined.lookup "MDREGRESS_STRICT_RESET").bind truth?
  | perfLibrary => defined.lookup "MDREGRESS_PERF_LIB"
  | perfImage => defined.lookup "MDREGRESS_PERF_IMAGE"
  | verbosity | images | scenarios | failFast | format | output | showPassed | warmup | iterations | workloads | json =>
    none

def inFile (file : SettingsFile) : (setting : Setting) → Option setting.Value
  | verbosity => file.verbose
  | logFormat => file.logFormat
  | color => file.color
  | library .baseline => file.baseline.library
  | library .current => file.current.library
  | symbol .baseline => file.baseline.symbol
  | symbol .current => file.current.symbol
  | abi .baseline => file.baseline.abi
  | abi .current => file.current.abi
  | images => listed file.verify.images
  | imagesDirectory => file.verify.imagesDirectory
  | bufferCapacity => file.verify.bufferCapacity
  | scenarios => listed file.verify.scenarios
  | strictReset => file.verify.strictReset
  | failFast => file.verify.failFast
  | format => file.verify.format
  | output => file.verify.output
  | showPassed => file.verify.showPassed
  | perfLibrary => file.perf.library
  | perfImage => file.perf.image
  | warmup => file.perf.warmup
  | iterations => file.perf.iterations
  | workloads => listed file.perf.workloads
  | json => file.perf.json

/-! ## The command line and the environment -/

def Concerns (command : Command) : Setting → Prop
  | verbosity | logFormat | color | library .baseline | symbol .baseline | abi .baseline => True
  | library .current | symbol .current | abi .current | images | imagesDirectory | bufferCapacity | scenarios | strictReset
  | failFast | format | output | showPassed => command.verify?.isSome
  | perfLibrary | perfImage | warmup | iterations | workloads | json => command.perf?.isSome

/-- The settings that every command has. -/
@[mk_iff] inductive Shared : Setting → Prop where
  | verbosity : Shared .verbosity
  | logFormat : Shared .logFormat
  | color : Shared .color
  | library : Shared (.library .baseline)
  | symbol : Shared (.symbol .baseline)
  | abi : Shared (.abi .baseline)

@[mk_iff] inductive OfVerify : Setting → Prop where
  | library : OfVerify (.library .current)
  | symbol : OfVerify (.symbol .current)
  | abi : OfVerify (.abi .current)
  | images : OfVerify .images
  | imagesDirectory : OfVerify .imagesDirectory
  | bufferCapacity : OfVerify .bufferCapacity
  | scenarios : OfVerify .scenarios
  | strictReset : OfVerify .strictReset
  | failFast : OfVerify .failFast
  | format : OfVerify .format
  | output : OfVerify .output
  | showPassed : OfVerify .showPassed

@[mk_iff] inductive OfPerf : Setting → Prop where
  | perfLibrary : OfPerf .perfLibrary
  | perfImage : OfPerf .perfImage
  | warmup : OfPerf .warmup
  | iterations : OfPerf .iterations
  | workloads : OfPerf .workloads
  | json : OfPerf .json

theorem Concerns.shared_or_ofVerify {arguments : VerifyArguments} {setting : Setting}
    (h : setting.Concerns (.verify arguments)) : setting.Shared ∨ setting.OfVerify := by
  rw [shared_iff, ofVerify_iff]
  cases setting with
  | library side | symbol side | abi side => cases side <;> simp
  | perfLibrary | perfImage | warmup | iterations | workloads | json => cases h
  | _ => simp

theorem Concerns.shared_or_ofPerf {arguments : PerfArguments} {setting : Setting}
    (h : setting.Concerns (.perf arguments)) : setting.Shared ∨ setting.OfPerf := by
  rw [shared_iff, ofPerf_iff]
  cases setting with
  | library side | symbol side | abi side =>
      cases side with
      | baseline => simp
      | current => cases h
  | verbosity | logFormat | color | perfLibrary | perfImage | warmup | iterations | workloads | json => simp
  | _ => cases h

end Setting

def Sources.arguments (name : String) (sources : Sources) : Arguments where
  verbose := min (sources.values "verbose").length maxVerbosity
  logFormat := sources.value? "log-format" LogFormat.ofName?
  color := sources.value? "color" ColorMode.ofName?
  config := sources.value? "config" some
  command := if name = "verify" then .verify sources.verify else .perf sources.perf

theorem Arguments.parse_eq_ok_iff {words : List String} {defined : List (String × String)} {arguments : Arguments} :
    Arguments.parse words defined = .ok arguments ↔
      ∃ name sources, Settings.sources words defined = .ok (name, sources) ∧ sources.arguments name = arguments := by
  unfold Arguments.parse
  simp only [bind_eq_ok_iff, pure_eq_ok_iff, Prod.exists]
  rfl

def Form.Reads {α : Type} (form : Form) (read? : String → Option α) : Prop :=
  ∀ value, form.refusal? value = none → (read? value).isSome

theorem Form.reads_of_require {α : Type} {form : Form} {read? : String → Option α} {refusal : Refusal}
    (h : ∀ value, form.refusal? value = if (read? value).isSome then none else some refusal) : form.Reads read? := by
  intro value hvalue
  rw [h] at hvalue
  split at hvalue
  · assumption
  · cases hvalue

theorem Form.reads_some (form : Form) : form.Reads some :=
  fun _ _ => rfl

theorem Form.reads_capacity : Form.capacity.Reads capacity? :=
  reads_of_require fun _ => rfl

theorem Form.reads_logFormat : Form.logFormat.Reads LogFormat.ofName? :=
  reads_of_require fun _ => rfl

theorem Form.reads_color : Form.color.Reads ColorMode.ofName? :=
  reads_of_require fun _ => rfl

theorem Form.reads_truth : Form.truth.Reads truth? :=
  reads_of_require fun _ => rfl

theorem Form.reads_abi : Form.abi.Reads fun text => (Native.FactoryAbi.parse text).toOption := by
  apply reads_of_require
  intro value
  change (if (Native.FactoryAbi.parse value).isOk then none else some Refusal.unreadableValue) = _
  cases Native.FactoryAbi.parse value <;> rfl

theorem orElse_none_eq {α : Type} (x : Option α) : x = (x <|> none) := by
  cases x <;> rfl

namespace Sources

variable {level : Level} {defined : List (String × String)} {sources : Sources}

theorem Sound.one_eq {α : Type} (h : sources.Sound level defined) (hlevel : level.Subordinate) {option environment : String}
    {form : Form} {read? : String → Option α} (hreads : form.Reads read?) (hparameter : ∃ parameter ∈ level.parameters,
      parameter.name = option ∧ parameter.environment = some environment ∧ parameter.action = .one form) :
    sources.value? option read? =
      (sources.commandLine.value? option read? <|> (defined.lookup environment).bind read?) := by
  obtain ⟨parameter, hmem, rfl, hvariable, haction⟩ := hparameter
  rw [h.value?_eq hlevel hmem (by simp [haction]) (haction ▸ hreads), hvariable, Option.bind_some]

theorem Sound.text_eq (h : sources.Sound level defined) (hlevel : level.Subordinate) {option environment : String}
    (form : Form) (hparameter : ∃ parameter ∈ level.parameters,
      parameter.name = option ∧ parameter.environment = some environment ∧ parameter.action = .one form) :
    sources.value? option some = (sources.commandLine.value? option some <|> defined.lookup environment) := by
  rw [h.one_eq hlevel form.reads_some hparameter, Option.bind_fun_some]

/-- The environment adds no values for a parameter without a variable. -/
theorem Sound.values_eq_of_no_variable (h : sources.Sound level defined) (option : String)
    (hparameter : ∃ parameter ∈ level.parameters, parameter.name = option ∧ parameter.environment = none) :
    sources.values option = sources.commandLine.values option := by
  obtain ⟨parameter, hmem, rfl, hvariable⟩ := hparameter
  rw [h.values_eq hmem, values_commandLine, hvariable]
  rfl

theorem Sound.value?_eq_of_no_variable {α : Type} (h : sources.Sound level defined) (option : String)
    (read? : String → Option α)
    (hparameter : ∃ parameter ∈ level.parameters, parameter.name = option ∧ parameter.environment = none) :
    sources.value? option read? = (sources.commandLine.value? option read? <|> none) := by
  rw [value?, h.values_eq_of_no_variable option hparameter, value?]
  exact orElse_none_eq _

theorem Sound.switched_eq_of_no_variable (h : sources.Sound level defined) (option : String)
    (hparameter : ∃ parameter ∈ level.parameters, parameter.name = option ∧ parameter.environment = none) :
    switched (sources.flag option) = (switched (sources.commandLine.flag option) <|> none) := by
  rw [flag, value?, h.values_eq_of_no_variable option hparameter]
  exact orElse_none_eq _

theorem Sound.common_eq (h : sources.Sound level defined) (hlevel : level.Subordinate)
    (hcommon : ∀ parameter ∈ Parameter.common, parameter ∈ level.parameters) :
    sources.values "verbose" = sources.commandLine.values "verbose" ∧
    sources.value? "log-format" LogFormat.ofName? = (sources.commandLine.value? "log-format" LogFormat.ofName? <|>
      (defined.lookup "MDREGRESS_LOG_FORMAT").bind LogFormat.ofName?) ∧
    sources.value? "color" ColorMode.ofName? = (sources.commandLine.value? "color" ColorMode.ofName? <|>
      (defined.lookup "MDREGRESS_COLOR").bind ColorMode.ofName?) ∧
    sources.value? "config" some =
      (sources.commandLine.value? "config" some <|> defined.lookup "MDREGRESS_CONFIG") := by
  have hfind {p : Parameter → Prop} (h : ∃ parameter ∈ Parameter.common, p parameter) :
      ∃ parameter ∈ level.parameters, p parameter := h.imp fun parameter hp => ⟨hcommon parameter hp.1, hp.2⟩
  exact ⟨h.values_eq_of_no_variable "verbose" (hfind (by decide)),
    h.one_eq hlevel Form.reads_logFormat (hfind (by decide)), h.one_eq hlevel Form.reads_color (hfind (by decide)),
    h.text_eq hlevel .path (hfind (by decide))⟩

theorem Sound.factory_eq (h : sources.Sound level defined) (hlevel : level.Subordinate) (side : Side)
    (hside : ∀ parameter ∈ (match side with | .baseline => Parameter.baseline | .current => Parameter.current),
      parameter ∈ level.parameters) :
    (sources.factory side).library =
      ((sources.commandLine.factory side).library <|> (Setting.library side).inEnvironment defined) ∧
    (sources.factory side).symbol =
      ((sources.commandLine.factory side).symbol <|> (Setting.symbol side).inEnvironment defined) ∧
    (sources.factory side).abi =
      ((sources.commandLine.factory side).abi <|> (Setting.abi side).inEnvironment defined) := by
  have hfind {p : Parameter → Prop} (h : ∃ parameter ∈
      (match side with | .baseline => Parameter.baseline | .current => Parameter.current), p parameter) :
      ∃ parameter ∈ level.parameters, p parameter := h.imp fun parameter hp => ⟨hside parameter hp.1, hp.2⟩
  cases side with
  | baseline | current =>
      exact ⟨h.text_eq hlevel .path (hfind (by decide)), h.text_eq hlevel .text (hfind (by decide)),
        h.one_eq hlevel Form.reads_abi (hfind (by decide))⟩

theorem factory_arguments (sources : Sources) (name : String) :
    (sources.arguments name).command.factory .baseline = sources.factory .baseline := by
  unfold arguments
  dsimp only
  split <;> rfl

end Sources

namespace Setting

variable {defined : List (String × String)} {sources : Sources}

theorem inArguments_eq_of_shared {level : Level} (h : sources.Sound level defined) (hlevel : level.Subordinate)
    (hparameters : ∀ parameter ∈ Parameter.common ++ Parameter.baseline, parameter ∈ level.parameters) (name : String)
    {setting : Setting} (hshared : setting.Shared) :
    setting.inArguments (sources.arguments name) =
      (setting.inArguments (sources.commandLine.arguments name) <|> setting.inEnvironment defined) := by
  rw [List.forall_mem_append] at hparameters
  obtain ⟨hverbose, hlogFormat, hcolor, -⟩ := h.common_eq hlevel hparameters.1
  obtain ⟨hlibrary, hsymbol, habi⟩ := h.factory_eq hlevel .baseline hparameters.2
  cases hshared with
  | verbosity =>
      exact (congrArg (fun values => counted (min values.length maxVerbosity)) hverbose).trans (orElse_none_eq _)
  | logFormat => exact hlogFormat
  | color => exact hcolor
  | library => simpa only [inArguments, Sources.factory_arguments] using hlibrary
  | symbol => simpa only [inArguments, Sources.factory_arguments] using hsymbol
  | abi => simpa only [inArguments, Sources.factory_arguments] using habi

/-- What the arguments of a verification say about its settings, but for one. -/
theorem inArguments_verify_eq (h : sources.Sound .verify defined) (hlevel : Level.verify.Subordinate) {setting : Setting}
    (hconcerns : setting.Concerns (.verify sources.verify)) (hstrict : setting ≠ .strictReset) :
    setting.inArguments (sources.arguments "verify") =
      (setting.inArguments (sources.commandLine.arguments "verify") <|> setting.inEnvironment defined) := by
  rcases hconcerns.shared_or_ofVerify with hshared | hown
  · exact inArguments_eq_of_shared h hlevel (by decide +kernel) "verify" hshared
  · obtain ⟨hlibrary, hsymbol, habi⟩ := h.factory_eq hlevel .current (by decide +kernel)
    cases hown with
    | library => exact hlibrary
    | symbol => exact hsymbol
    | abi => exact habi
    | images => exact (congrArg listed (h.values_eq_of_no_variable "images" (by decide +kernel))).trans (orElse_none_eq _)
    | imagesDirectory => exact h.text_eq hlevel .path (by decide +kernel)
    | bufferCapacity => exact h.one_eq hlevel Form.reads_capacity (by decide +kernel)
    | scenarios =>
        have hvalues := h.values_eq_of_no_variable "scenario" (by decide +kernel)
        exact (congrArg (fun values => listed (values.filterMap fun text => (Scenario.parse text).toOption))
          hvalues).trans (orElse_none_eq _)
    | strictReset => exact absurd rfl hstrict
    | failFast => exact h.switched_eq_of_no_variable "fail-fast" (by decide +kernel)
    | format => exact h.value?_eq_of_no_variable "format" ReportFormat.ofName? (by decide +kernel)
    | output => exact h.value?_eq_of_no_variable "output" some (by decide +kernel)
    | showPassed => exact h.switched_eq_of_no_variable "show-passed" (by decide +kernel)

theorem inArguments_perf_eq (h : sources.Sound .perf defined) (hlevel : Level.perf.Subordinate) {setting : Setting}
    (hconcerns : setting.Concerns (.perf sources.perf)) :
    setting.inArguments (sources.arguments "perf") =
      (setting.inArguments (sources.commandLine.arguments "perf") <|> setting.inEnvironment defined) := by
  rcases hconcerns.shared_or_ofPerf with hshared | hown
  · exact inArguments_eq_of_shared h hlevel (by decide +kernel) "perf" hshared
  · cases hown with
    | perfLibrary => exact h.text_eq hlevel .path (by decide +kernel)
    | perfImage => exact h.text_eq hlevel .path (by decide +kernel)
    | warmup => exact h.value?_eq_of_no_variable "warmup" iterations? (by decide +kernel)
    | iterations => exact h.value?_eq_of_no_variable "iterations" iterations? (by decide +kernel)
    | workloads =>
        have hvalues := h.values_eq_of_no_variable "scenario" (by decide +kernel)
        exact (congrArg (fun values => listed (values.filterMap fun text => (Workload.parse text).toOption))
          hvalues).trans (orElse_none_eq _)
    | json => exact h.value?_eq_of_no_variable "json" some (by decide +kernel)

/-- The one switch that has a variable is on if the command line or the variable switches it on. -/
theorem inArguments_strictReset_iff (h : sources.Sound .verify defined) (hlevel : Level.verify.Subordinate) :
    strictReset.inArguments (sources.arguments "verify") = some true ↔
      strictReset.inArguments (sources.commandLine.arguments "verify") = some true ∨
        strictReset.inEnvironment defined = some true := by
  let parameter : Parameter :=
    { name := "strict-reset", environment := some "MDREGRESS_STRICT_RESET", action := .switch }
  have hmem : parameter ∈ Level.verify.parameters := by decide +kernel
  have hvalue : sources.value? "strict-reset" truth? = (sources.commandLine.value? "strict-reset" truth? <|>
      strictReset.inEnvironment defined) := h.value?_eq hlevel hmem (by decide) Form.reads_truth
  have hne : sources.commandLine.value? "strict-reset" truth? ≠ some false := h.value?_ne_false hlevel hmem rfl
  change switched (sources.flag "strict-reset") = some true ↔
    switched (sources.commandLine.flag "strict-reset") = some true ∨ _
  rw [Sources.flag, Sources.flag, hvalue]
  generalize sources.commandLine.value? "strict-reset" truth? = given at hne
  rcases given with _ | _ | _
  · rcases strictReset.inEnvironment defined with _ | _ | _ <;> simp [switched]
  · exact absurd rfl hne
  · simp [switched]

end Setting

/-- The arguments that are read are those of the command line by itself, with what the environment adds to them. -/
theorem Arguments.exists_commandLine {words : List String} {defined : List (String × String)} {arguments : Arguments}
    (h : Arguments.parse words defined = .ok arguments) :
    ∃ commandLine, Arguments.parse words [] = .ok commandLine ∧
      arguments.config = (commandLine.config <|> defined.lookup "MDREGRESS_CONFIG") ∧
      (∀ setting : Setting, setting.Concerns arguments.command → setting ≠ .strictReset →
        setting.inArguments arguments = (setting.inArguments commandLine <|> setting.inEnvironment defined)) ∧
      (Setting.strictReset.Concerns arguments.command → (Setting.strictReset.inArguments arguments = some true ↔
        Setting.strictReset.inArguments commandLine = some true ∨
          Setting.strictReset.inEnvironment defined = some true)) := by
  obtain ⟨name, sources, hsources, rfl⟩ := Arguments.parse_eq_ok_iff.mp h
  obtain ⟨hsound, hcommandLine⟩ := sources_eq_ok hsources
  have hlevel := Level.subordinate_named name
  refine ⟨_, Arguments.parse_eq_ok_iff.mpr ⟨name, _, hcommandLine, rfl⟩, ?_⟩
  by_cases hname : name = "verify"
  · subst hname
    exact ⟨(hsound.common_eq hlevel (by decide +kernel)).2.2.2,
      fun setting => Setting.inArguments_verify_eq hsound hlevel, fun _ => Setting.inArguments_strictReset_iff hsound hlevel⟩
  · rw [Level.named, if_neg hname] at hsound hlevel
    have harguments (sources : Sources) : sources.arguments name = sources.arguments "perf" := by
      rw [Sources.arguments, if_neg hname]
      rfl
    rw [harguments, harguments]
    exact ⟨(hsound.common_eq hlevel (by decide +kernel)).2.2.2,
      fun setting hconcerns _ => Setting.inArguments_perf_eq hsound hlevel hconcerns, nofun⟩

end MetaParity.Settings
