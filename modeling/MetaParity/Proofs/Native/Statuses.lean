import MetaParity.Proofs.Command.Matching
import MetaParity.Proofs.Native.Script
import MetaParity.Proofs.Native.Traced

/-! # Only the sign of a status matters

Libraries whose answers differ in the statuses of successful calls at most cannot be told apart: an invocation calls them
alike and ends the same. -/

namespace MetaParity.Program

variable {σ τ : Type} {R : σ → τ → Prop} {libraries : Native.Libraries σ} {libraries' : Native.Libraries τ}

/-- Over two libraries that give the same answers but for the statuses of successful calls, every verification,
benchmark run and invocation ends the same, and the libraries are asked the same in the same order. -/
theorem alike_of_statuses_alike (h : Native.Libraries.Alike R libraries libraries') {s : σ} {t : τ} (hst : R s t) :
    (∀ settings startedAt files console,
      let (report, world) := (Command.verify libraries.traced settings startedAt).run { files, console, native := (s, []) }
      let (report', world') :=
        (Command.verify libraries'.traced settings startedAt).run { files, console, native := (t, []) }
      report = report' ∧ world.files = world'.files ∧ world.console = world'.console ∧
        world.native.2.map (·.asked) = world'.native.2.map (·.asked)) ∧
    (∀ settings startedAt files console,
      let (report, world) := (Command.perf libraries.traced settings startedAt).run { files, console, native := (s, []) }
      let (report', world') :=
        (Command.perf libraries'.traced settings startedAt).run { files, console, native := (t, []) }
      report = report' ∧ world.files = world'.files ∧ world.console = world'.console ∧
        world.native.2.map (·.asked) = world'.native.2.map (·.asked)) ∧
    ∀ invocation files,
      let ending := run libraries.traced invocation files (s, [])
      let ending' := run libraries'.traced invocation files (t, [])
      ending.exitCode = ending'.exitCode ∧ ending.output = ending'.output ∧ ending.complaint = ending'.complaint ∧
        ending.files = ending'.files ∧ ending.native.2.map (·.asked) = ending'.native.2.map (·.asked) := by
  have hstart : R s t ∧ ([] : List Native.Exchange).map (·.asked) = ([] : List Native.Exchange).map (·.asked) :=
    ⟨hst, rfl⟩
  refine ⟨fun settings startedAt files console => ?_, fun settings startedAt files console => ?_,
    fun invocation files => ?_⟩
  · obtain ⟨hreport, hworld⟩ := Command.matches_verify h.traced settings startedAt
      { files, console, native := (s, []) } { files, console, native := (t, []) } ⟨rfl, rfl, hstart⟩
    exact ⟨alike_eq_iff.mp hreport, hworld.files_eq, hworld.console_eq, hworld.native.2⟩
  · obtain ⟨hreport, hworld⟩ := Command.matches_perf h.traced settings startedAt
      { files, console, native := (s, []) } { files, console, native := (t, []) } ⟨rfl, rfl, hstart⟩
    exact ⟨alike_eq_iff.mp hreport, hworld.files_eq, hworld.console_eq, hworld.native.2⟩
  · have hending := matches_run h.traced invocation files (s := (s, [])) (t := (t, [])) hstart
    exact ⟨hending.exitCode_eq, hending.output_eq, hending.complaint_eq, hending.files_eq, hending.native.2⟩

/-- Libraries that answer everything that goes well with zero, and with other statuses. -/
theorem alike_of_statuses_nonnegative :
    let blob : Bytes := [0x07, 0x01, 0x08]
    let script : Native.Script :=
      { listings := [(.typeDefs, .nil, [⟨0x02000002⟩, ⟨0x02000003⟩]), (.signatures, .nil, [⟨0x11000001⟩])]
        signatures := [(⟨0x11000001⟩, .ok, false, blob)] }
    let script' : Native.Script :=
      { script with
        factoryStatus := ⟨1⟩, openStatus := ⟨2⟩, countStatus := ⟨3⟩, resetStatus := ⟨4⟩, prepareStatus := ⟨5⟩
        pages := Kind.all.map (·, none, ⟨1⟩), signatures := [(⟨0x11000001⟩, ⟨6⟩, false, blob)]
        benchmarks := [(Workload.enumTypeDefs.exportName .baseline, ⟨0x7fffffff⟩)] }
    let libraries : Native.Libraries Native.ScriptState := fun _ => some script.component
    let libraries' : Native.Libraries Native.ScriptState := fun _ => some script'.component
    let invocation : Invocation :=
      { words := ["verify", "--baseline-lib", "a.so", "--current-lib", "b.so", "lib"], startedAt := "" }
    let files : Files := .ofLists [] [("lib", [0x42, 0x53, 0x4a, 0x42])]
    Native.Libraries.Alike Eq libraries libraries' ∧ script.openStatus ≠ script'.openStatus ∧
      (run libraries.traced invocation files ({}, [])).exitCode =
        (run libraries'.traced invocation files ({}, [])).exitCode ∧
      (run libraries.traced invocation files ({}, [])).native.2.map (·.asked) =
        (run libraries'.traced invocation files ({}, [])).native.2.map (·.asked) := by
  intro blob script script' libraries libraries' invocation files
  have hscript : script.Alike script' :=
    { exports_eq := rfl, factory := .inr ⟨rfl, rfl⟩, factoryNull_eq := rfl, opening := .inr ⟨rfl, rfl⟩,
      openNull_eq := rfl, openByLength_eq := rfl, items_eq := rfl, withoutHandle_eq := rfl, overstated_eq := rfl,
      count := .inr ⟨rfl, rfl⟩, countSkew_eq := rfl, reset := .inr ⟨rfl, rfl⟩, prepare := .inr ⟨rfl, rfl⟩,
      size_eq := rfl
      page := by
        intro kind position
        cases kind <;> exact .inr ⟨rfl, rfl⟩
      signature := by
        intro token
        by_cases htoken : token = ⟨0x11000001⟩
        · subst htoken
          exact ⟨.inr ⟨rfl, rfl⟩, rfl, rfl, rfl, rfl, rfl⟩
        · have heq : script.signature token = script'.signature token := by
            simp [Native.Script.signature, script, script', List.lookup_cons, beq_eq_false_iff_ne.mpr htoken]
          rw [heq]
          exact .refl _
      benchmark := by
        intro symbol
        by_cases hsymbol : symbol = Workload.enumTypeDefs.exportName .baseline
        · subst hsymbol
          exact .inr ⟨rfl, rfl⟩
        · left
          simp [script, script', List.lookup_cons, beq_eq_false_iff_ne.mpr hsymbol] }
  have hlibraries : Native.Libraries.Alike Eq libraries libraries' := fun _ => .some hscript.component
  obtain ⟨hexit, -, -, -, hasked⟩ := (alike_of_statuses_alike hlibraries rfl).2.2 invocation files
  exact ⟨hlibraries, by decide, hexit, hasked⟩

end MetaParity.Program
