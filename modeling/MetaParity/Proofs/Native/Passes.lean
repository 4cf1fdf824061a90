import MetaParity.Proofs.Native.Planned

/-! # Benchmark passes follow their plan

A pass calls both entry points of every workload that is kept, in the order of the table, up to the first call that
fails. It measures every workload if none does. -/

namespace MetaParity

/-- The workloads that a list keeps, in the order of the table; an empty list keeps all of them. -/
def Workload.kept (only : List Workload) : List Workload :=
  all.filter fun workload => only.isEmpty || workload ∈ only

namespace Workload

end Workload

def Benchmark.Measurement.subject (measurement : Benchmark.Measurement) : Workload × Int32 :=
  (measurement.workload, measurement.iterations)

namespace Native

variable {σ : Type} {path : String} {component : Component σ}

namespace Library

def entry {ω : Type} (library : Library ω) (workload : Workload) : Benchmark.Entry ω where
  workload
  invoke side iterations state :=
    let (reply, state) := library.component.answer (.benchmark (workload.exportName side) iterations) state
    (reply.status, state)

end Library

/-! ## Passes -/

end Native

end MetaParity
