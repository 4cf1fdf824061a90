import MetaParity.Native.BenchmarkLibrary
import MetaParity.Proofs.Run.Matching
import MetaParity.Report.Text

/-! # Components that answer alike

Components that give the same answers up to the statuses of successful calls. Whatever is built on one of them matches
what is built on the other, since of a status only the sign is looked at unless it is a failure. -/

namespace MetaParity

/-! ## Statuses -/

/-- The same status, or two of successful calls. -/
def Status.Alike (status status' : Status) : Prop :=
  status = status' ∨ status.isFailure = false ∧ status'.isFailure = false

namespace Status.Alike

variable {status status' : Status}

theorem isFailure_eq (h : status.Alike status') : status.isFailure = status'.isFailure := by
  rcases h with rfl | ⟨hstatus, hstatus'⟩
  · rfl
  · rw [hstatus, hstatus']

theorem eq_of_isFailure (h : status.Alike status') (hfailure : status.isFailure) : status = status' := by
  rcases h with heq | ⟨hstatus, -⟩
  · exact heq
  · simp [hstatus] at hfailure

theorem toExcept_eq (h : status.Alike status') : status.toExcept = status'.toExcept := by
  unfold toExcept
  rw [← h.isFailure_eq]
  split
  · next hfailure => rw [h.eq_of_isFailure hfailure]
  · rfl

end Status.Alike

namespace Native

/-- Replies that differ in the status of a successful call at most. -/
structure Reply.Alike (reply reply' : Reply) : Prop where
  status : reply.status.Alike reply'.status
  object_eq : reply.object = reply'.object
  handle_eq : reply.handle = reply'.handle
  number_eq : reply.number = reply'.number
  tokens_eq : reply.tokens = reply'.tokens
  bytes_eq : reply.bytes = reply'.bytes

theorem Reply.Alike.refl (reply : Reply) : reply.Alike reply :=
  ⟨.inl rfl, rfl, rfl, rfl, rfl, rfl⟩

theorem Reply.Alike.result_eq {α : Type} {reply reply' : Reply} (h : reply.Alike reply') (value : α) :
    reply.result value = reply'.result value := by
  unfold Reply.result
  rw [h.status.toExcept_eq]

variable {σ τ : Type} {R : σ → τ → Prop} {component : Component σ} {component' : Component τ}

/-! ## Objects that are handed over -/

/-- A call that is to hand over an object, and what is made of the object unless the call fails or there is none. -/
def handOver {ε α : Type} (failed : Status → ε) (null : ε) (value : Pointer → α) (call : σ → Reply × σ) (state : σ) :
    Except ε α × σ :=
  let (reply, state) := call state
  if reply.status.isFailure then (.error (failed reply.status), state)
  else if reply.object.isNull then (.error null, state)
  else (.ok (value reply.object), state)

def Component.sessionOf (component : Component σ) (object : Pointer) : Session σ :=
  { component.importOf object with release := component.release .metadataImport object }

def Component.heldDispenser (component : Component σ) (side : Side) (object : Pointer) : HeldDispenser σ :=
  { component.dispenserOf side object with object, release := component.release .dispenser object }

theorem Component.openScope_dispenserOf (component : Component σ) (side : Side) (object : Pointer) {image : Bytes}
    (h : image.length ≤ maxCapacity) :
    (component.dispenserOf side object).openScope image =
      let failed (status : Status) : Failure := .openFailed (side.name ++ " OpenScopeOnMemory") status
      handOver failed (failed .pointer) component.sessionOf
        (component.answer (.openScope object image openFlags .metadataImport)) := by
  funext s
  exact if_neg (Nat.not_lt.mpr h)

theorem Library.dispenser_of_require {library : Library σ} {symbol : String} (h : library.require symbol = .ok ())
    (side : Side) (abi : FactoryAbi) :
    library.dispenser side symbol abi =
      handOver (.factoryFailed symbol) (.nullInterface symbol) (library.component.heldDispenser side)
        (library.component.answer (.factory symbol (objectClass? abi) .dispenser)) := by
  funext s
  unfold Library.dispenser
  rw [h]
  rfl

theorem matching_handOver {ε α β : Type} {Q : α → β → Prop} {call : σ → Reply × σ} {call' : τ → Reply × τ}
    (hcall : Matching R Reply.Alike call call') (failed : Status → ε) (null : ε) {value : Pointer → α}
    {value' : Pointer → β} (hvalue : ∀ object, Q (value object) (value' object)) :
    Matching R (MetaParity.Alike Q) (handOver failed null value call) (handOver failed null value' call') := by
  intro s t hst
  have hreply := hcall s t hst
  unfold handOver
  revert hreply
  rcases call s with ⟨reply, s₁⟩
  rcases call' t with ⟨reply', t₁⟩
  rintro ⟨hreply, hst⟩
  dsimp only at hreply hst ⊢
  rw [← hreply.status.isFailure_eq, ← hreply.object_eq]
  split
  · next hfailure =>
    rw [hreply.status.eq_of_isFailure hfailure]
    exact ⟨.error _, hst⟩
  · split
    · exact ⟨.error null, hst⟩
    · exact ⟨.ok (hvalue reply.object), hst⟩

/-! ## Components -/

structure Component.Alike (R : σ → τ → Prop) (component : Component σ) (component' : Component τ) : Prop where
  exports_eq : component.exports = component'.exports
  answer : ∀ request, Matching R Reply.Alike (component.answer request) (component'.answer request)
  pageLimit_eq : ∀ s t, R s t → component.pageLimit s = component'.pageLimit t

def Libraries.Alike (R : σ → τ → Prop) (libraries : Libraries σ) (libraries' : Libraries τ) : Prop :=
  ∀ path, Option.Rel (Component.Alike R) (libraries path) (libraries' path)

/-! ## Sessions and dispensers -/

namespace Component.Alike

/-- Sessions of components that are alike answer the same, whatever the statuses of successful calls are. -/
theorem importOf (h : component.Alike R component') (object : Pointer) :
    (component.importOf object).Matches R (component'.importOf object) where
  page handle query capacity s t hst := by
    obtain ⟨hreply, hst⟩ := h.answer
      (.enumerate object (slot query.kind) query.scope? handle (min capacity maxCapacity)) s t hst
    refine ⟨?_, hst⟩
    simp only [Component.importOf]
    rw [hreply.result_eq, hreply.handle_eq, hreply.tokens_eq, hreply.number_eq]
  count handle s t hst := by
    obtain ⟨hreply, hst⟩ := h.answer (.count object handle) s t hst
    refine ⟨?_, hst⟩
    simp only [Component.importOf]
    rw [hreply.result_eq, hreply.number_eq]
  reset handle position s t hst := by
    obtain ⟨hreply, hst⟩ := h.answer (.reset object handle position) s t hst
    exact ⟨hreply.result_eq (), hst⟩
  close handle s t hst := (h.answer (.close object handle) s t hst).2
  signature token s t hst := by
    obtain ⟨hreply, hst⟩ := h.answer (.signature object token) s t hst
    refine ⟨?_, hst⟩
    simp only [Component.importOf]
    rw [hreply.result_eq, hreply.bytes_eq]
  pageLimit := h.pageLimit_eq

theorem release (h : component.Alike R component') (interface : Interface) (object : Pointer) {s : σ} {t : τ}
    (hst : R s t) : R (component.release interface object s) (component'.release interface object t) :=
  (h.answer (.release interface object) s t hst).2

theorem dispenserOf (h : component.Alike R component') (side : Side) (object : Pointer) :
    (component.dispenserOf side object).Matches R (component'.dispenserOf side object) := by
  intro image
  by_cases hlength : maxCapacity < image.length
  · intro s t hst
    simp only [Component.dispenserOf, if_pos hlength]
    exact ⟨.error _, hst⟩
  · rw [component.openScope_dispenserOf side object (Nat.le_of_not_lt hlength),
      component'.openScope_dispenserOf side object (Nat.le_of_not_lt hlength)]
    exact matching_handOver (h.answer _) _ _ fun session =>
      ⟨(h.importOf session).listsAlike, fun _ _ => h.release .metadataImport session⟩

end Component.Alike

/-! ## Libraries -/

structure HeldDispenser.Matches (R : σ → τ → Prop) (dispenser : HeldDispenser σ) (dispenser' : HeldDispenser τ) :
    Prop where
  opens : dispenser.toDispenser.Matches R dispenser'.toDispenser
  object_eq : dispenser.object = dispenser'.object
  release : ∀ s t, R s t → R (dispenser.release s) (dispenser'.release t)

structure Library.Alike (R : σ → τ → Prop) (library : Library σ) (library' : Library τ) : Prop where
  path_eq : library.path = library'.path
  component : library.component.Alike R library'.component

theorem Library.Alike.require_eq {library : Library σ} {library' : Library τ} (h : library.Alike R library')
    (symbol : String) : library.require symbol = library'.require symbol := by
  unfold Library.require
  rw [h.component.exports_eq, h.path_eq]

variable {libraries : Libraries σ} {libraries' : Libraries τ}

namespace Libraries.Alike

theorem load (h : Libraries.Alike R libraries libraries') (path : String) :
    MetaParity.Alike (Library.Alike R) (Library.load libraries path) (Library.load libraries' path) := by
  have hpath := h path
  unfold Library.load
  revert hpath
  generalize libraries path = loaded, libraries' path = loaded'
  intro hpath
  cases hpath with
  | none => exact .error _
  | some hcomponent => exact .ok ⟨rfl, hcomponent⟩

theorem loadBenchmarks (h : Libraries.Alike R libraries libraries') (path : String) :
    MetaParity.Alike (Library.Alike R) (Library.loadBenchmarks libraries path)
      (Library.loadBenchmarks libraries' path) := by
  have hload := h.load path
  unfold Library.loadBenchmarks
  revert hload
  generalize Library.load libraries path = loaded, Library.load libraries' path = loaded'
  intro hload
  cases hload with
  | error error => exact .error error
  | @ok library library' hlibrary =>
      have hrequire : library.require = library'.require := funext hlibrary.require_eq
      change MetaParity.Alike _ (benchmarkExports.forM library.require >>= fun _ => .ok library)
        (benchmarkExports.forM library'.require >>= fun _ => .ok library')
      rw [hrequire]
      cases benchmarkExports.forM library'.require with
      | error error => exact .error error
      | ok => exact .ok hlibrary

theorem acquire (h : Libraries.Alike R libraries libraries') (factory : Factory) (side : Side) :
    Matching R (MetaParity.Alike (HeldDispenser.Matches R)) (factory.acquire libraries side)
      (factory.acquire libraries' side) := by
  have hload := h.load factory.library
  unfold Factory.acquire
  revert hload
  generalize Library.load libraries factory.library = loaded, Library.load libraries' factory.library = loaded'
  intro hload
  cases hload with
  | error error => exact fun s t hst => ⟨.error error, hst⟩
  | @ok library library' hlibrary =>
      dsimp only
      cases hrequire : library.require factory.symbol with
      | error error =>
          intro s t hst
          simp only [Library.dispenser, ← hlibrary.require_eq, hrequire]
          exact ⟨.error error, hst⟩
      | ok =>
          rw [Library.dispenser_of_require hrequire,
            Library.dispenser_of_require ((hlibrary.require_eq factory.symbol).symm.trans hrequire)]
          exact matching_handOver (hlibrary.component.answer _) _ _ fun object =>
            ⟨hlibrary.component.dispenserOf side object, rfl,
              fun _ _ => hlibrary.component.release .dispenser object⟩

end Libraries.Alike

end Native

/-! ## Benchmarks -/

namespace Benchmark

variable {σ τ : Type} {R : σ → τ → Prop}

structure Entry.Matches (R : σ → τ → Prop) (entry : Entry σ) (entry' : Entry τ) : Prop where
  workload_eq : entry.workload = entry'.workload
  invoke : ∀ side iterations, Matching R Status.Alike (entry.invoke side iterations) (entry'.invoke side iterations)

/-- Passes that report the same progress and come to the same result. -/
structure Pass.Alike (pass pass' : Pass) : Prop where
  report_eq : pass.events.flatMap (·.report) = pass'.events.flatMap (·.report)
  result_eq : pass.result = pass'.result

theorem Event.report_timed_eq {status status' : Status} (h : status.Alike status') (workload : Workload) (side : Side)
    (elapsed : Nat) :
    (Event.timed workload side elapsed status).report = (Event.timed workload side elapsed status').report := by
  unfold Event.report
  dsimp only
  rw [← h.isFailure_eq]
  by_cases hfailure : status.isFailure
  · rw [h.eq_of_isFailure hfailure]
  · rw [if_neg hfailure, if_neg hfailure]

theorem matching_call {entry : Entry σ} {entry' : Entry τ} (hentry : entry.Matches R entry') (side : Side)
    (iterations : Int32) {next : σ → Pass × σ} {next' : τ → Pass × τ} (hnext : Matching R Pass.Alike next next') :
    Matching R Pass.Alike (call entry side iterations next) (call entry' side iterations next') := by
  intro s t hst
  have hinvoke := hentry.invoke side iterations s t hst
  unfold call
  revert hinvoke
  rcases entry.invoke side iterations s with ⟨status, s₁⟩
  rcases entry'.invoke side iterations t with ⟨status', t₁⟩
  rintro ⟨hstatus, hst⟩
  dsimp only at hstatus hst ⊢
  have hreport := Event.report_timed_eq hstatus entry.workload side 0
  rw [← hstatus.isFailure_eq, ← hentry.workload_eq]
  by_cases hfailure : status.isFailure
  · rw [if_pos hfailure, if_pos hfailure, hstatus.eq_of_isFailure hfailure]
    exact ⟨⟨rfl, rfl⟩, hst⟩
  · rw [if_neg hfailure, if_neg hfailure]
    obtain ⟨⟨hevents, hresult⟩, hst⟩ := hnext s₁ t₁ hst
    refine ⟨⟨?_, hresult⟩, hst⟩
    simp only [Pass.after, List.flatMap_cons, hreport, hevents]

theorem matching_pass {entries : List (Entry σ)} {entries' : List (Entry τ)}
    (h : List.Forall₂ (Entry.Matches R) entries entries') (iterations : Int32) :
    Matching R Pass.Alike (pass iterations entries) (pass iterations entries') := by
  induction h with
  | nil => exact fun _ _ hst => ⟨⟨rfl, rfl⟩, hst⟩
  | @cons entry entry' entries entries' hentry _ ih =>
      have hlater : Matching R Pass.Alike
          (fun state => ((pass iterations entries state).1.measured ⟨entry.workload, iterations, 0, 0⟩,
            (pass iterations entries state).2))
          (fun state => ((pass iterations entries' state).1.measured ⟨entry'.workload, iterations, 0, 0⟩,
            (pass iterations entries' state).2)) := by
        intro s t hst
        obtain ⟨⟨hevents, hresult⟩, hst⟩ := ih s t hst
        refine ⟨⟨hevents, ?_⟩, hst⟩
        simp only [Pass.measured, hresult, hentry.workload_eq]
      intro s t hst
      obtain ⟨⟨hevents, hresult⟩, hst⟩ :=
        matching_call hentry .baseline iterations (matching_call hentry .current iterations hlater) s t hst
      refine ⟨⟨?_, hresult⟩, hst⟩
      simp only [pass, Pass.after, List.flatMap_cons]
      rw [hevents, hentry.workload_eq]

theorem matching_retain {entries : List (Entry σ)} {entries' : List (Entry τ)}
    (h : List.Forall₂ (Entry.Matches R) entries entries') (only : List Workload) :
    List.Forall₂ (Entry.Matches R) (retain entries only) (retain entries' only) := by
  unfold retain
  split
  · exact h
  · refine List.rel_filter ?_ h
    intro entry entry' hentry
    simp only [hentry.workload_eq]

end Benchmark

namespace Native.Library.Alike

variable {σ τ : Type} {R : σ → τ → Prop} {library : Library σ} {library' : Library τ}

theorem benchmarks (h : library.Alike R library') :
    List.Forall₂ (Benchmark.Entry.Matches R) library.benchmarks library'.benchmarks := by
  unfold Library.benchmarks
  rw [List.forall₂_map_left_iff, List.forall₂_map_right_iff]
  refine List.forall₂_same.mpr fun workload _ => ⟨rfl, fun side iterations s t hst => ?_⟩
  obtain ⟨hreply, hst⟩ := h.component.answer (.benchmark (workload.exportName side) iterations) s t hst
  exact ⟨hreply.status, hst⟩

theorem prepare (h : library.Alike R library') (image : Bytes) (dispenser : Option Pointer) :
    Matching R Eq (library.prepare image dispenser) (library'.prepare image dispenser) := by
  intro s t hst
  unfold Library.prepare
  split
  · exact ⟨rfl, hst⟩
  · obtain ⟨hreply, hst⟩ := h.component.answer (.prepare image (dispenser.getD .null)) s t hst
    exact ⟨by dsimp only; rw [hreply.status.toExcept_eq], hst⟩

end Native.Library.Alike

end MetaParity
