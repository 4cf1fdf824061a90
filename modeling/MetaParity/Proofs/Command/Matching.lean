import MetaParity.Program
import MetaParity.Proofs.Native.Alike

/-! # Commands that match

A command over libraries that answer alike writes the same, comes to the same result and leaves related states. -/

namespace MetaParity

variable {σ τ α α' β β' ε : Type} {R : σ → τ → Prop}

structure World.Matches (R : σ → τ → Prop) (world : World σ) (world' : World τ) : Prop where
  files_eq : world.files = world'.files
  console_eq : world.console = world'.console
  native : R world.native world'.native

/-! ## Steps of commands -/

namespace Action

/-- From worlds that match both end in the same error, or with related values, and in worlds that match. -/
def Matches (R : σ → τ → Prop) (Q : α → α' → Prop) (action : Action σ α) (action' : Action τ α') : Prop :=
  Matching (World.Matches R) (Alike Q) action.run action'.run

variable {Q : α → α' → Prop} {Q' : β → β' → Prop}

theorem matches_pure {a : α} {a' : α'} (h : Q a a') : Matches R Q (pure a) (pure a') :=
  Matching.pureExcept h

theorem matches_throw (error : CommandError) : Matches R Q (throw error) (throw error) :=
  Matching.throwExcept error

theorem matches_throw_bind (error : CommandError) (f : β → Action σ α) (f' : β' → Action τ α') :
    Matches R Q (throw error >>= f) (throw error >>= f') :=
  fun _ _ h => ⟨.error error, h⟩

theorem Matches.bind {m : Action σ α} {m' : Action τ α'} {f : α → Action σ β} {f' : α' → Action τ β'}
    (hm : Matches R Q m m') (hf : ∀ a a', Q a a' → Matches R Q' (f a) (f' a')) : Matches R Q' (m >>= f) (m' >>= f') :=
  Matching.bindExcept hm hf

theorem Matches.bindEq {m : Action σ α} {m' : Action τ α} {f : α → Action σ β} {f' : α → Action τ β'}
    (hm : Matches R Eq m m') (hf : ∀ a, Matches R Q' (f a) (f' a)) : Matches R Q' (m >>= f) (m' >>= f') := by
  refine hm.bind ?_
  rintro a _ rfl
  exact hf a

theorem matches_get : Matches R (World.Matches R) get get :=
  fun _ _ h => ⟨.ok h, h⟩

theorem matches_ofExcept (error : ε → CommandError) {result : Except ε α} {result' : Except ε α'}
    (h : Alike Q result result') : Matches R Q (ofExcept error result) (ofExcept error result') := by
  intro w w' hw
  cases h with
  | error e => exact ⟨.error _, hw⟩
  | ok ha => exact ⟨.ok ha, hw⟩

theorem matches_print (text : Console) : Matches R Eq (print text) (print text) :=
  fun _ _ h => ⟨.ok rfl, h.files_eq, congrArg (· ++ text) h.console_eq, h.native⟩

theorem matches_write (path text : String) : Matches R Eq (write path text) (write path text) := by
  refine matches_get.bind fun w w' hw => ?_
  rw [hw.files_eq]
  refine (matches_ofExcept _ (.refl _)).bindEq fun files => ?_
  exact fun _ _ h => ⟨.ok rfl, rfl, h.console_eq, h.native⟩

theorem matches_deliver (output : Option String) (text : Console) :
    Matches R Eq (deliver output text) (deliver output text) := by
  cases output with
  | none => exact matches_print text
  | some path => exact matches_write path _

theorem matches_forM {f : β → Action σ PUnit} {f' : β → Action τ PUnit} (h : ∀ b, Matches R Eq (f b) (f' b))
    (item : Option β) : Matches R Eq (item.forM f) (item.forM f') := by
  cases item with
  | none => exact matches_pure rfl
  | some b => exact h b

theorem matches_call {operation : σ → α × σ} {operation' : τ → α' × τ} (h : Matching R Q operation operation') :
    Matches R Q (call operation) (call operation') := by
  intro w w' hw
  obtain ⟨hanswer, hnative⟩ := h w.native w'.native hw.native
  exact ⟨.ok hanswer, hw.files_eq, hw.console_eq, hnative⟩

theorem matches_callOrEnd (error : ε → CommandError) {operation : σ → Except ε α × σ}
    {operation' : τ → Except ε α' × τ} (h : Matching R (Alike Q) operation operation') :
    Matches R Q (callOrEnd error operation) (callOrEnd error operation') :=
  (matches_call h).bind fun _ _ hanswer => matches_ofExcept error hanswer

theorem matches_drive {computation : Run.RunM σ α} {computation' : Run.RunM τ α}
    (h : Matching R Eq computation.run computation'.run) : Matches R Eq (drive computation) (drive computation') := by
  refine (matches_call h).bindEq fun answer => ?_
  cases answer with
  | none => exact matches_throw .endless
  | some a => exact matches_pure rfl

theorem matches_holding {dispenser : Native.HeldDispenser σ} {dispenser' : Native.HeldDispenser τ}
    (h : dispenser.Matches R dispenser') {action : Action σ α} {action' : Action τ α'} (haction : Matches R Q action action') :
    Matches R Q (holding dispenser action) (holding dispenser' action') := by
  intro w w' hw
  obtain ⟨hanswer, hw⟩ := haction w w' hw
  exact ⟨hanswer, hw.files_eq, hw.console_eq, h.release _ _ hw.native⟩

end Action

/-! ## Verifications -/

namespace Command

variable {dispensers : DispenserPair σ} {dispensers' : DispenserPair τ}
  {libraries : Native.Libraries σ} {libraries' : Native.Libraries τ}

section

variable {config : RunConfig} (h : ∀ name bytes, Matching R Eq (Run.image config name dispensers bytes).run
  (Run.image config name dispensers' bytes).run)
include h

theorem matching_verifyImages (failFast : Bool) (report : VerifyReport) (images : List Image) :
    Matching R Eq (verifyImages config failFast dispensers report images).run
      (verifyImages config failFast dispensers' report images).run := by
  induction images generalizing report with
  | nil => exact .pureOption report
  | cons image images ih =>
      refine .bindOption (h image.path image.metadata) fun summary => ?_
      by_cases hstop : (failFast && !summary.isPass) = true
      · rw [if_pos hstop, if_pos hstop]
        exact .pureOption _
      · rw [if_neg hstop, if_neg hstop]
        exact ih _

theorem matches_verifyWith {settings : VerifySettings} (hsettings : settings.run = config) (startedAt : String) :
    Action.Matches R Eq (verifyWith settings startedAt dispensers) (verifyWith settings startedAt dispensers') := by
  subst hsettings
  refine Action.matches_get.bind fun w w' hw => ?_
  rw [hw.files_eq]
  refine (Action.matches_ofExcept _ (.refl _)).bindEq fun images => ?_
  have hreport : Action.Matches R Eq
      (do
        let report ← Action.drive
          (verifyImages settings.run settings.failFast dispensers (.start settings startedAt) images)
        Action.deliver settings.output (report.console settings.format settings.showPassed)
        return report)
      (do
        let report ← Action.drive
          (verifyImages settings.run settings.failFast dispensers' (.start settings startedAt) images)
        Action.deliver settings.output (report.console settings.format settings.showPassed)
        return report) :=
    (Action.matches_drive (matching_verifyImages h _ _ images)).bindEq fun report =>
      (Action.matches_deliver _ _).bindEq fun _ => Action.matches_pure rfl
  dsimp only
  split
  · exact Action.matches_throw_bind _ _ _
  · split
    · exact (Action.matches_forM (fun path => Action.matches_write path "") _).bindEq fun _ => hreport
    · exact hreport

end

theorem matches_withDispenser (h : Native.Libraries.Alike R libraries libraries') (side : Side)
    (factory : Native.Factory) {Q : α → α' → Prop} {action : Native.HeldDispenser σ → Action σ α}
    {action' : Native.HeldDispenser τ → Action τ α'}
    (haction : ∀ dispenser dispenser', Native.HeldDispenser.Matches R dispenser dispenser' →
      Action.Matches R Q (action dispenser) (action' dispenser')) :
    Action.Matches R Q (withDispenser libraries side factory action) (withDispenser libraries' side factory action') :=
  (Action.matches_callOrEnd _ (h.acquire factory side)).bind fun dispenser dispenser' hdispenser =>
    Action.matches_holding hdispenser (haction dispenser dispenser' hdispenser)

theorem matches_verify (h : Native.Libraries.Alike R libraries libraries') (settings : VerifySettings)
    (startedAt : String) :
    Action.Matches R Eq (verify libraries settings startedAt) (verify libraries' settings startedAt) := by
  refine matches_withDispenser h .baseline settings.baseline fun baseline baseline' hbaseline => ?_
  refine matches_withDispenser h .current settings.current fun current current' hcurrent => ?_
  refine matches_verifyWith (Run.matching_image (fun side => ?_) settings.run) rfl startedAt
  cases side with
  | baseline => exact hbaseline.opens
  | current => exact hcurrent.opens

/-! ## Benchmark runs -/

theorem matches_timedPass {entries : List (Benchmark.Entry σ)} {entries' : List (Benchmark.Entry τ)}
    (h : List.Forall₂ (Benchmark.Entry.Matches R) entries entries') (iterations : Int32) :
    Action.Matches R Eq (timedPass entries iterations) (timedPass entries' iterations) := by
  refine (Action.matches_call (Benchmark.matching_pass h iterations)).bind fun pass pass' hpass => ?_
  rw [hpass.report_eq, hpass.result_eq]
  exact (Action.matches_print _).bindEq fun _ => Action.matches_ofExcept _ (.refl _)

theorem matches_timedPasses {entries : List (Benchmark.Entry σ)} {entries' : List (Benchmark.Entry τ)}
    (h : List.Forall₂ (Benchmark.Entry.Matches R) entries entries') (settings : PerfSettings) (startedAt : String) :
    Action.Matches R Eq (timedPasses settings startedAt entries) (timedPasses settings startedAt entries') := by
  unfold timedPasses
  dsimp only
  have hmeasured (warmup : List Benchmark.Measurement) : Action.Matches R Eq
      (do
        Action.print (Console.line s!"Run iterations - {Document.integerText settings.iterations.toInt}")
        let measured ← timedPass entries settings.iterations
        Action.print (Benchmark.summary measured)
        return { startedAt, library := settings.library, image := settings.image, warmup, measured : PerfReport })
      (do
        Action.print (Console.line s!"Run iterations - {Document.integerText settings.iterations.toInt}")
        let measured ← timedPass entries' settings.iterations
        Action.print (Benchmark.summary measured)
        return { startedAt, library := settings.library, image := settings.image, warmup, measured }) :=
    (Action.matches_print _).bindEq fun _ => (matches_timedPass h _).bindEq fun measured =>
      (Action.matches_print _).bindEq fun _ => Action.matches_pure rfl
  split
  · exact (Action.matches_print _).bindEq fun _ => (matches_timedPass h _).bindEq fun warmup =>
      (Action.matches_print _).bindEq fun _ => hmeasured warmup
  · exact hmeasured []

theorem matches_perfWith {library : Native.Library σ} {library' : Native.Library τ} (h : library.Alike R library')
    (settings : PerfSettings) (startedAt : String) (image : Image) (dispenser : Option Native.Pointer) :
    Action.Matches R Eq (perfWith settings startedAt library image dispenser)
      (perfWith settings startedAt library' image dispenser) :=
  (Action.matches_callOrEnd _ ((h.prepare image.metadata dispenser).mono fun _ _ => alike_eq_iff.mpr)).bindEq fun _ =>
    (matches_timedPasses (Benchmark.matching_retain h.benchmarks settings.workloads) settings startedAt).bindEq
      fun _ => (Action.matches_forM (fun path => Action.matches_write path _) settings.json).bindEq fun _ =>
        Action.matches_pure rfl

theorem matches_perf (h : Native.Libraries.Alike R libraries libraries') (settings : PerfSettings)
    (startedAt : String) :
    Action.Matches R Eq (perf libraries settings startedAt) (perf libraries' settings startedAt) := by
  refine (Action.matches_ofExcept _ (h.loadBenchmarks settings.library)).bind fun library library' hlibrary => ?_
  refine Action.matches_get.bind fun w w' hw => ?_
  rw [hw.files_eq]
  refine (Action.matches_ofExcept _ (.refl _)).bindEq fun image => ?_
  cases settings.baseline with
  | none => exact matches_perfWith hlibrary settings startedAt image none
  | some factory =>
      refine (Action.matches_callOrEnd _ (h.acquire factory .baseline)).bind fun dispenser dispenser' hdispenser => ?_
      rw [hdispenser.object_eq]
      exact Action.matches_holding hdispenser (matches_perfWith hlibrary settings startedAt image _)

end Command

/-! ## The program -/

structure Ending.Matches (R : σ → τ → Prop) (ending : Ending σ) (ending' : Ending τ) : Prop where
  exitCode_eq : ending.exitCode = ending'.exitCode
  output_eq : ending.output = ending'.output
  complaint_eq : ending.complaint = ending'.complaint
  files_eq : ending.files = ending'.files
  native : R ending.native ending'.native

namespace Program

variable {libraries : Native.Libraries σ} {libraries' : Native.Libraries τ}

theorem matches_execute (h : Native.Libraries.Alike R libraries libraries') (settings : Settings)
    (startedAt : String) :
    Action.Matches R Eq (execute libraries settings startedAt) (execute libraries' settings startedAt) := by
  unfold execute
  cases settings.mode with
  | verify verify => exact (Command.matches_verify h verify startedAt).bindEq fun _ => Action.matches_pure rfl
  | perf perf => exact (Command.matches_perf h perf startedAt).bindEq fun _ => Action.matches_pure rfl

theorem matches_run (h : Native.Libraries.Alike R libraries libraries') (invocation : Invocation) (files : Files)
    {s : σ} {t : τ} (hst : R s t) :
    (run libraries invocation files s).Matches R (run libraries' invocation files t) := by
  unfold run
  cases Settings.Arguments.parse invocation.words invocation.environment with
  | error refusal => exact ⟨rfl, rfl, rfl, rfl, hst⟩
  | ok arguments =>
      dsimp only
      unfold runWith
      cases Settings.load files arguments with
      | error error => exact ⟨rfl, rfl, rfl, rfl, hst⟩
      | ok settings =>
          have hexecute := matches_execute h settings invocation.startedAt { files, native := s } { files, native := t }
            ⟨rfl, rfl, hst⟩
          dsimp only [Id.run]
          revert hexecute
          rcases (execute libraries settings invocation.startedAt).run { files, native := s } with ⟨result, world⟩
          rcases (execute libraries' settings invocation.startedAt).run { files, native := t } with ⟨result', world'⟩
          rintro ⟨hresult, hworld⟩
          obtain rfl : result = result' := alike_eq_iff.mp hresult
          exact ⟨rfl, congrArg (Console.render _) hworld.console_eq, rfl, hworld.files_eq, hworld.native⟩

end Program

end MetaParity
