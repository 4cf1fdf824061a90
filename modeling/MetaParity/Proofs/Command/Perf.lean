import MetaParity.Native.Script
import MetaParity.Proofs.Native.Passes
import MetaParity.Proofs.Native.Statuses
import MetaParity.Proofs.Program

/-! # Benchmark runs make the promised calls

What a benchmark run calls, when it succeeds, and what it writes then. -/

namespace MetaParity

variable {σ α β ε : Type} {path : String} {plan plan' : List Native.Request} {component : Native.Component σ}

/-! ## What is promised -/

namespace PerfSettings

def kept (settings : PerfSettings) : List Workload :=
  Workload.kept settings.workloads

/-- The iteration counts of the passes that are made: the warm-up, unless it is switched off, and the measured pass. -/
def passes (settings : PerfSettings) : List Int32 :=
  (if settings.warmup = 0 then [] else [settings.warmup]) ++ [settings.iterations]

end PerfSettings

structure PerfReport.Covers (report : PerfReport) (settings : PerfSettings) : Prop where
  warmup : report.warmup.map (·.subject) = if settings.warmup = 0 then [] else settings.kept.map (·, settings.warmup)
  measured : report.measured.map (·.subject) = settings.kept.map (·, settings.iterations)

/-! ## Actions that follow plans -/

namespace Action

/-- The calls of an action follow a plan, and it leaves the files as they are. -/
def Performs (path : String) (plan : List Native.Request) (P : α → Prop)
    (action : Action (σ × List Native.Exchange) α) : Prop :=
  ∀ world, Native.Performs path plan P world.native.2 (action.run world).1 (action.run world).2.native.2 ∧
    (action.run world).2.files = world.files

variable {P : α → Prop} {Q : β → Prop}

section

variable {ω : Type} {w : World ω} {a : α} {e : ε} {error : ε → CommandError}

variable {operation : ω → Except ε α × ω} {native : ω}

end

theorem Performs.bind {m : Action (σ × List Native.Exchange) α} {f : α → Action (σ × List Native.Exchange) β}
    (hm : Performs path plan P m) (hf : ∀ a, P a → Performs path plan' Q (f a)) :
    Performs path (plan ++ plan') Q (m >>= f) := by
  intro world
  obtain ⟨hperforms, hfiles⟩ := hm world
  rw [run_bindExcept]
  revert hperforms hfiles
  rcases m.run world with ⟨error | a, world'⟩
  · intro hperforms hfiles
    exact ⟨hperforms.stop plan', hfiles⟩
  · intro hperforms hfiles
    obtain ⟨hnext, hfiles'⟩ := hf a hperforms.holds world'
    exact ⟨hperforms.andThen hnext, hfiles'.trans hfiles⟩

theorem Performs.finish {m : Action (σ × List Native.Exchange) α} {f : α → Action (σ × List Native.Exchange) β}
    (hm : Performs path plan P m) (hf : ∀ a, P a → Performs path [] Q (f a)) : Performs path plan Q (m >>= f) := by
  have h := hm.bind hf
  rwa [List.append_nil] at h

end Action

namespace Command

open Native

variable {settings : PerfSettings}

variable {libraries : Libraries σ} {image : Image} {dispenser : Option Pointer}

end Command

namespace Program

open Native

variable {libraries : Libraries σ} {invocation : Invocation} {arguments : Settings.Arguments} {settings : Settings}
  {perf : PerfSettings} {files : Files} {native : σ}

end Program

end MetaParity
