import MetaParity.Model.Synthetic
import MetaParity.Proofs.Handles
import MetaParity.Proofs.Native.ScriptService
import MetaParity.Proofs.Run.Matching

/-! # Native sessions agree with in-memory sessions

A scenario answers the same on a native session that serves a model as on an in-memory session over that model, and
gives back every handle that it was handed. -/

namespace MetaParity

namespace Native

variable {ω : Type} {component : Component ω} {object : Pointer} {model : Model} {faults : Memory.FaultPlan}

/-! ## Requests behind calls -/

/-- The request that a call on a native session makes, with the reply that the call takes its answer from. -/
inductive Makes (object : Pointer) : Call → Request × Reply → Prop where
  | page (handle : Handle) (query : Query) (capacity : Nat) (reply : Reply) :
      Makes object (.page handle query capacity ⟨reply.handle, reply.tokens, reply.result reply.number.toNat⟩)
        (.enumerate object (slot query.kind) query.scope? handle (min capacity maxCapacity), reply)
  | count (handle : Handle) (reply : Reply) :
      Makes object (.count handle (reply.result reply.number)) (.count object handle, reply)
  | reset (handle : Handle) (position : UInt32) (reply : Reply) :
      Makes object (.reset handle position (reply.result ())) (.reset object handle position, reply)
  | close (handle : Handle) (reply : Reply) : Makes object (.close handle) (.close object handle, reply)
  | signature (token : Token) (reply : Reply) :
      Makes object (.signature token (reply.result { bytes := reply.bytes.getD [] })) (.signature object token, reply)

def Requested (object : Pointer) (x : ω × List Call) (y : ω × List (Request × Reply)) : Prop :=
  x.1 = y.1 ∧ List.Forall₂ (Makes object) x.2 y.2

theorem Requested.concat {x : ω × List Call} {y : ω × List (Request × Reply)} (h : Requested object x y) (s : ω)
    {call : Call} {exchange : Request × Reply} (hcall : Makes object call exchange) :
    Requested object (s, x.2 ++ [call]) (s, y.2 ++ [exchange]) :=
  ⟨rfl, List.rel_append h.2 (.cons hcall .nil)⟩

/-- It is the same whether the calls on a native session are noted, or the requests that they make. -/
theorem matches_requests (component : Component ω) (object : Pointer) :
    (component.importOf object).traced.Matches (Requested object) (component.traced.importOf object) where
  page handle query capacity := by
    rintro ⟨s, calls⟩ ⟨_, exchanges⟩ ⟨rfl, hmade⟩
    exact ⟨rfl, Requested.concat ⟨rfl, hmade⟩ _ (.page handle query capacity _)⟩
  count handle := by
    rintro ⟨s, calls⟩ ⟨_, exchanges⟩ ⟨rfl, hmade⟩
    exact ⟨rfl, Requested.concat ⟨rfl, hmade⟩ _ (.count handle _)⟩
  reset handle position := by
    rintro ⟨s, calls⟩ ⟨_, exchanges⟩ ⟨rfl, hmade⟩
    exact ⟨rfl, Requested.concat ⟨rfl, hmade⟩ _ (.reset handle position _)⟩
  close handle := by
    rintro ⟨s, calls⟩ ⟨_, exchanges⟩ ⟨rfl, hmade⟩
    exact Requested.concat ⟨rfl, hmade⟩ _ (.close handle _)
  signature token := by
    rintro ⟨s, calls⟩ ⟨_, exchanges⟩ ⟨rfl, hmade⟩
    exact ⟨rfl, Requested.concat ⟨rfl, hmade⟩ _ (.signature token _)⟩
  pageLimit := by
    rintro ⟨s, calls⟩ ⟨_, exchanges⟩ ⟨rfl, hmade⟩
    rfl

/-! ## Handles -/

theorem keepsHandle_concat {calls : List Call} {call : Call} (h : ∀ call ∈ calls, call.KeepsHandle)
    (hcall : call.KeepsHandle) : ∀ other ∈ calls ++ [call], other.KeepsHandle :=
  List.forall_mem_append.mpr ⟨h, List.forall_mem_singleton.mpr hcall⟩

def keepingInvariant (service : Service component object model faults) :
    Invariant (component.importOf object).traced where
  Holds state := service.Holds state.1 ∧ ∀ call ∈ state.2, call.KeepsHandle
  Held c state := (∃ iterator, service.Stands iterator (c, state.1)) ∧ ∀ call ∈ state.2, call.KeepsHandle
  start query h := ⟨⟨_, .unopened query h.1⟩, h.2⟩
  page {c state} buffer := by
    rintro ⟨⟨iterator, hstands⟩, hkeeps⟩
    obtain ⟨-, hstands, hkept⟩ := hstands.page buffer
    exact ⟨⟨_, hstands⟩, keepsHandle_concat hkeeps hkept⟩
  count {c state} := by
    rintro ⟨⟨iterator, hstands⟩, hkeeps⟩
    have hcounted := hstands.count.2
    unfold Cursor.count at hcounted ⊢
    by_cases hopened : c.isOpened
    · rw [if_pos hopened] at hcounted ⊢
      exact ⟨⟨iterator, hcounted⟩, keepsHandle_concat hkeeps trivial⟩
    · rw [if_neg hopened]
      exact ⟨⟨iterator, hstands⟩, hkeeps⟩
  reset {c state} offset := by
    rintro ⟨⟨iterator, hstands⟩, hkeeps⟩
    have hreset := (hstands.reset offset).2
    unfold Cursor.reset at hreset ⊢
    by_cases hopened : c.isOpened
    · rw [if_pos hopened] at hreset ⊢
      exact ⟨⟨_, hreset⟩, keepsHandle_concat hkeeps trivial⟩
    · rw [if_neg hopened]
      exact ⟨⟨iterator, hstands⟩, hkeeps⟩
  close {c state} := by
    rintro ⟨⟨iterator, hstands⟩, hkeeps⟩
    have hclosed := hstands.close
    unfold Cursor.close at hclosed ⊢
    by_cases hopened : c.isOpened
    · rw [if_pos hopened] at hclosed ⊢
      exact ⟨hclosed, keepsHandle_concat hkeeps trivial⟩
    · rw [if_neg hopened]
      exact ⟨hstands.holds, hkeeps⟩
  signature token := by
    rintro ⟨hs, hkeeps⟩
    exact ⟨(service.signature_importOf token hs).2, keepsHandle_concat hkeeps trivial⟩

/-- Whatever a scenario makes of a session that serves a model, the calls behind its requests give every handle back. -/
theorem exists_balanced (service : Service component object model faults) {s : ω} (hs : service.Holds s)
    (capacity : Nat) (scenario : Scenario) (side : Side) (strictReset : Bool) :
    ∃ calls, Balanced calls ∧ List.Forall₂ (Makes object) calls
      ((scenario.run (Lister.of (component.traced.importOf object) capacity) side strictReset).run (s, [])).2.2 := by
  have hkeeps := (keepingInvariant service).scenario capacity scenario side strictReset (s := (s, []))
    ⟨hs, by simp⟩
  have hbalanced := (handleInvariant (component.importOf object)).scenario capacity scenario side strictReset
    (s := (s, [])) fun _ => ⟨disciplined_nil, rfl⟩
  have hmade := (matches_requests component object).listsAlike capacity scenario side strictReset (s, []) (s, [])
    ⟨rfl, .nil⟩
  exact ⟨_, hbalanced.balanced hkeeps.2, hmade.2.2⟩

/-! ## Agreement -/

/-- A scenario on a native session that serves a model answers as it does on an in-memory session over the model,
failures included, and the native session is handed back every handle that it opened, exactly once. -/
theorem scenario_agrees (hoverrun : faults.pageOverrun = none) (service : Service component object model faults) {s : ω}
    (hs : service.Holds s) (t : Memory.State) (capacity : Nat) (scenario : Scenario) (side : Side)
    (strictReset : Bool) :
    (∃ answer : Except Failure Listing,
      ((scenario.run (Lister.of (component.importOf object) capacity) side strictReset).run s).1 =
        answer.mapError .failed ∧
      ((scenario.run (Lister.of (Memory.session model faults) capacity) side strictReset).run t).1 =
        answer.mapError .failed) ∧
    ∃ calls, Balanced calls ∧ List.Forall₂ (Makes object) calls
      ((scenario.run (Lister.of (component.traced.importOf object) capacity) side strictReset).run (s, [])).2.2 := by
  obtain ⟨answer, hnative, hmemory⟩ :=
    (service.serving.concurrent (Memory.serving model faults hoverrun) capacity capacity).scenario scenario side
      strictReset
  exact ⟨⟨answer, (hnative s hs).1, (hmemory t trivial).1⟩,
    exists_balanced service hs capacity scenario side strictReset⟩

/-- A session whose successful calls all answer one, and whose pages of parameters fail. -/
theorem scenario_agrees_paging :
    let model := Model.synthetic 2 1 1 1
    let faults : Memory.FaultPlan := { paging := some (.params, .fail) }
    let script : Script :=
      { model := some model, pages := (.params, none, .fail) :: Kind.all.map (·, none, ⟨1⟩), countStatus := ⟨1⟩,
        resetStatus := ⟨1⟩ }
    faults.pageOverrun = none ∧ ∃ service : Service script.component ⟨1⟩ model faults, service.Holds {} ∧
      ((Scenario.run .typeHierarchy (Lister.of (script.component.importOf ⟨1⟩) 2) .current true).run {}).1 =
        .error (.failed (.pagingFailed (.params ⟨0x06000001⟩) .fail)) ∧
      (∃ answer : Except Failure Listing,
        ((Scenario.run .typeHierarchy (Lister.of (script.component.importOf ⟨1⟩) 2) .current true).run {}).1 =
          answer.mapError .failed ∧
        ((Scenario.run .typeHierarchy (Lister.of (Memory.session model faults) 2) .current true).run {}).1 =
          answer.mapError .failed) ∧
      ∃ calls, Balanced calls ∧ List.Forall₂ (Makes ⟨1⟩) calls
        ((Scenario.run .typeHierarchy (Lister.of (script.component.traced.importOf ⟨1⟩) 2) .current true).run
          ({}, [])).2.2 := by
  intro model faults script
  have hfaithful : script.Faithful model faults :=
    { items_eq := Script.items_of_model rfl rfl
      page := fun kind position => by
        cases kind <;> first | exact ⟨rfl, rfl⟩ | exact rfl
      withoutHandle_eq := rfl
      overstated_eq := rfl
      count := rfl
      countSkew_eq := fun _ => rfl
      countable := fun query => by
        have hsize : model.size ≤ maxCapacity := by decide +kernel
        have hitems := model.length_items_le query
        change (((model.items query).length : Int) + 0).toNat ≤ maxCapacity
        omega
      reset := rfl
      signature := Script.signature_of_model rfl rfl rfl
      size_le := Nat.le_refl model.size }
  refine ⟨rfl, hfaithful.service ⟨1⟩, trivial, by decide +kernel, ?_⟩
  exact scenario_agrees rfl (hfaithful.service ⟨1⟩) trivial {} 2 .typeHierarchy .current true

end Native

end MetaParity
