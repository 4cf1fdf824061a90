import MetaParity.Proofs.Native.Alike

/-! # Traced libraries

Every call that is made on a library, with its path and its reply. Noting the calls changes nothing, and libraries that
answer alike are called alike as long as nothing else is. -/

namespace MetaParity.Native

structure Exchange where
  path : String
  request : Request
  reply : Reply
deriving DecidableEq

def Exchange.asked (exchange : Exchange) : String × Request :=
  (exchange.path, exchange.request)

variable {σ τ : Type}

def Component.tracedAt (path : String) (component : Component σ) : Component (σ × List Exchange) where
  exports := component.exports
  answer request state :=
    let (reply, inner) := component.answer request state.1
    (reply, inner, state.2 ++ [⟨path, request, reply⟩])
  pageLimit state := component.pageLimit state.1

def Libraries.traced (libraries : Libraries σ) : Libraries (σ × List Exchange) :=
  fun path => (libraries path).map (·.tracedAt path)

/-- Libraries answer the same with and without a trace. -/
theorem Libraries.alike_traced (libraries : Libraries σ) :
    Libraries.Alike (fun state s => state.1 = s) libraries.traced libraries := by
  intro path
  unfold Libraries.traced
  cases libraries path with
  | none => exact .none
  | some component =>
      refine .some ⟨rfl, fun request => ?_, ?_⟩
      · rintro ⟨s, trace⟩ _ rfl
        exact ⟨.refl _, rfl⟩
      · rintro ⟨s, trace⟩ _ rfl
        rfl

theorem Libraries.Alike.traced {R : σ → τ → Prop} {libraries : Libraries σ} {libraries' : Libraries τ}
    (h : Libraries.Alike R libraries libraries') :
    Libraries.Alike (fun x y => R x.1 y.1 ∧ x.2.map (·.asked) = y.2.map (·.asked)) libraries.traced
      libraries'.traced := by
  intro path
  have hpath := h path
  unfold Libraries.traced
  revert hpath
  generalize libraries path = loaded, libraries' path = loaded'
  intro hpath
  cases hpath with
  | none => exact .none
  | some hcomponent =>
      refine .some ⟨hcomponent.exports_eq, fun request => ?_, fun x y hxy => hcomponent.pageLimit_eq x.1 y.1 hxy.1⟩
      rintro ⟨s, trace⟩ ⟨t, trace'⟩ ⟨hst, hasked⟩
      obtain ⟨hreply, hst⟩ := hcomponent.answer request s t hst
      refine ⟨hreply, hst, ?_⟩
      dsimp only [Component.tracedAt]
      rw [List.map_append, List.map_append, hasked]
      rfl

end MetaParity.Native
