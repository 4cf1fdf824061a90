import MetaParity.Native.Script
import MetaParity.Proofs.Native.Alike

/-! # Scripted components

Scripts that are the same up to the statuses of successful calls make components that answer alike. -/

namespace MetaParity.Native.Script

/-- Scripts that serve the same and that set statuses which are alike. -/
structure Alike (script script' : Script) : Prop where
  exports_eq : script.exports = script'.exports
  factory : script.factoryStatus.Alike script'.factoryStatus
  factoryNull_eq : script.factoryNull = script'.factoryNull
  opening : script.openStatus.Alike script'.openStatus
  openNull_eq : script.openNull = script'.openNull
  openByLength_eq : script.openByLength = script'.openByLength
  items_eq : script.items = script'.items
  page : ∀ kind position, (script.pageStatus kind position).Alike (script'.pageStatus kind position)
  withoutHandle_eq : script.withoutHandle = script'.withoutHandle
  overstated_eq : script.overstated = script'.overstated
  count : script.countStatus.Alike script'.countStatus
  countSkew_eq : script.countSkew = script'.countSkew
  reset : script.resetStatus.Alike script'.resetStatus
  signature : ∀ token, (script.signature token).Alike (script'.signature token)
  prepare : script.prepareStatus.Alike script'.prepareStatus
  benchmark : ∀ symbol, ((script.benchmarks.lookup symbol).getD .ok).Alike ((script'.benchmarks.lookup symbol).getD .ok)
  size_eq : script.size = script'.size

variable {script script' : Script}

theorem alike_object {status status' : Status} (h : status.Alike status') (null : Bool) (state : ScriptState) :
    (state.object status null).1.Alike (state.object status' null).1 ∧
      (state.object status null).2 = (state.object status' null).2 := by
  unfold ScriptState.object
  cases null with
  | true => exact ⟨⟨h, rfl, rfl, rfl, rfl, rfl⟩, rfl⟩
  | false => exact ⟨⟨h, rfl, rfl, rfl, rfl, rfl⟩, rfl⟩

theorem Alike.pageOf (h : script.Alike script') (handle : Handle) (listing : OpenListing) (capacity : Nat)
    (state : ScriptState) :
    (script.page handle listing capacity state).1.Alike (script'.page handle listing capacity state).1 ∧
      (script.page handle listing capacity state).2 = (script'.page handle listing capacity state).2 := by
  have hstatus := h.page listing.kind listing.pages
  unfold Script.page
  dsimp only
  rw [← hstatus.isFailure_eq, h.overstated_eq]
  split
  · exact ⟨⟨hstatus, rfl, rfl, rfl, rfl, rfl⟩, rfl⟩
  · exact ⟨⟨hstatus, rfl, rfl, rfl, rfl, rfl⟩, rfl⟩

theorem Alike.enumerate (h : script.Alike script') (kind : Kind) (scope : Token) (handle : Handle) (capacity : Nat)
    (state : ScriptState) :
    (script.enumerate kind scope handle capacity state).1.Alike (script'.enumerate kind scope handle capacity state).1 ∧
      (script.enumerate kind scope handle capacity state).2 =
        (script'.enumerate kind scope handle capacity state).2 := by
  unfold Script.enumerate
  rw [h.withoutHandle_eq, h.items_eq]
  split
  · split
    · exact h.pageOf _ _ _ _
    · exact ⟨.refl _, rfl⟩
  · split
    · exact ⟨⟨h.page kind 0, rfl, rfl, rfl, rfl, rfl⟩, rfl⟩
    · exact h.pageOf _ _ _ _

theorem Alike.component (h : script.Alike script') : Component.Alike Eq script.component script'.component where
  exports_eq := h.exports_eq
  pageLimit_eq s t _ := congrArg (· + 1) h.size_eq
  answer request := by
    rintro state _ rfl
    simp only [Script.component]
    cases request with
    | factory symbol objectClass interface =>
        simp only [Script.answer, ← h.factoryNull_eq]
        exact alike_object h.factory script.factoryNull state
    | openScope dispenser image flags interface =>
        simp only [Script.answer, Script.openScope, ← h.openByLength_eq, ← h.openNull_eq]
        split
        · exact ⟨.refl _, rfl⟩
        · exact alike_object h.opening script.openNull state
    | enumerate session wanted scope handle capacity =>
        simp only [Script.answer]
        split
        · exact h.enumerate _ _ handle capacity state
        · exact ⟨.refl _, rfl⟩
    | count session handle =>
        refine ⟨?_, rfl⟩
        simp only [Script.answer, Script.count, ← h.countSkew_eq]
        split
        · exact .refl _
        · exact ⟨h.count, rfl, rfl, rfl, rfl, rfl⟩
    | reset session handle position =>
        simp only [Script.answer, Script.reset, ← h.reset.isFailure_eq]
        split
        · exact ⟨.refl _, rfl⟩
        · exact ⟨⟨h.reset, rfl, rfl, rfl, rfl, rfl⟩, rfl⟩
    | close session handle => exact ⟨.refl _, rfl⟩
    | signature session token => exact ⟨h.signature token, rfl⟩
    | release interface object => exact ⟨.refl _, rfl⟩
    | prepare image dispenser => exact ⟨⟨h.prepare, rfl, rfl, rfl, rfl, rfl⟩, rfl⟩
    | benchmark symbol iterations => exact ⟨⟨h.benchmark symbol, rfl, rfl, rfl, rfl, rfl⟩, rfl⟩

end MetaParity.Native.Script
