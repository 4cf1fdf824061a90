import MetaParity.Proofs.Memory.Parity
import MetaParity.Proofs.Model.Unresolved

/-! # Which scenario fails over two models

A run over two models passes exactly when every configured scenario lists the same of both. Otherwise the first that does
not is recorded as failed, by the first signature that a side cannot resolve or by the first position at which the
listings differ. -/

namespace MetaParity

namespace Model

variable {baseline current : Model}

/-! ## One scenario -/

/-- Two models list the same in a scenario, and both do list something. -/
def ListsAs (baseline current : Model) (scenario : Scenario) : Prop :=
  ∃ listing, baseline.listing scenario = .ok listing ∧ current.listing scenario = .ok listing

/-- How a scenario is recorded in which two models do not list the same: by the first signature without a blob, looked
for on the baseline first, or else by the first position at which the listings differ. -/
inductive FailsAs (baseline current : Model) (context : Nat) (scenario : Scenario) : ScenarioRecord → Prop where
  | baseline {token} : baseline.unresolved? scenario = some token →
      FailsAs baseline current context scenario
        { scenario, outcome := .failed (some .baseline) (Failure.lookupFailed token .recordNotFound).message none }
  | current {token} : baseline.unresolved? scenario = none → current.unresolved? scenario = some token →
      FailsAs baseline current context scenario
        { scenario, outcome := .failed (some .current) (Failure.lookupFailed token .recordNotFound).message none }
  | diverged {b c divergence} : baseline.listing scenario = .ok b → current.listing scenario = .ok c →
      b.compare context scenario c = some divergence → divergence.Marks Listing.Item.text b.items c.items →
      FailsAs baseline current context scenario
        { scenario, outcome := .failed none divergence.text (some divergence), baselineItems := some b.length
          currentItems := some c.length }

theorem same_iff_listsAs {context : Nat} {scenario : Scenario} :
    Listing.Same context scenario (baseline.listing scenario) (current.listing scenario) ↔
      baseline.ListsAs current scenario := by
  constructor
  · rintro ⟨b, c, hb, hc, hcompare⟩
    obtain rfl := (exact_of_listing hb hc).compare_eq_none_iff.mp hcompare
    exact ⟨b, hb, hc⟩
  · rintro ⟨listing, hb, hc⟩
    exact ⟨listing, listing, hb, hc, listing.compare_self⟩

theorem exists_mishap (context : Nat) {scenario : Scenario} (h : ¬ baseline.ListsAs current scenario) :
    ∃ mishap, Run.verdict context scenario (baseline.listing scenario) (current.listing scenario) = .error mishap ∧
      FailsAs baseline current context scenario (mishap.record scenario) := by
  -- In the order of the run: a signature that the baseline lacks hides all that is wrong with the current side.
  cases hbaseline : baseline.unresolved? scenario with
  | some token =>
      rw [listing_of_unresolved hbaseline]
      exact ⟨_, rfl, .baseline hbaseline⟩
  | none =>
      obtain ⟨b, hb⟩ := exists_listing hbaseline
      cases hcurrent : current.unresolved? scenario with
      | some token =>
          rw [hb, listing_of_unresolved hcurrent]
          exact ⟨_, rfl, .current hbaseline hcurrent⟩
      | none =>
          obtain ⟨c, hc⟩ := exists_listing hcurrent
          have hexact := exact_of_listing hb hc
          cases hcompare : b.compare context scenario c with
          | none =>
              obtain rfl := hexact.compare_eq_none_iff.mp hcompare
              exact absurd ⟨b, hb, hc⟩ h
          | some divergence =>
              have hmarks := hexact.marks hcompare
              refine ⟨⟨none, .diverged divergence⟩, by rw [hb, hc, Run.verdict, hcompare], ?_⟩
              have hfails := FailsAs.diverged hb hc hcompare hmarks
              rwa [← b.length_items, ← c.length_items, ← hmarks.baselineLength_eq,
                ← hmarks.currentLength_eq] at hfails

end Model

namespace Memory

/-! ## Runs -/

/-- A run over two models passes if and only if both list the same in every scenario; the first scenario in which they
do not is the one that failed. -/
theorem image_verdict (baseline current : Model) (hbaseline : baseline.Countable) (hcurrent : current.Countable)
    (config : RunConfig) (name : String) (bytes : Bytes) (state : DispenserState × DispenserState) :
    ∃ (summary : ImageSummary) (state' : DispenserState × DispenserState),
      (Run.image config name (dispensers (baseline, {}) (current, {})) bytes).run state = (some summary, state') ∧
      (summary.isPass ↔ ∀ scenario ∈ config.scenarios, baseline.ListsAs current scenario) ∧
      ∀ before scenario after, config.scenarios = before ++ scenario :: after →
        (∀ earlier ∈ before, baseline.ListsAs current earlier) → ¬ baseline.ListsAs current scenario →
        ∃ record, Model.FailsAs baseline current config.context scenario record ∧
          summary.records[before.length]? = some record ∧ summary.firstFailure? = some record ∧
          summary.failed = 1 := by
  have hsettled := settled_sessionsAt hbaseline hcurrent config state.1.tables.length state.2.tables.length
  obtain ⟨state', hrun, -⟩ := hsettled.sessions_eq name
    (s := ({ state.1 with tables := state.1.tables ++ [{}] }, { state.2 with tables := state.2.tables ++ [{}] }))
    ⟨idleAt_concat state.1, idleAt_concat state.2⟩
  refine ⟨_, _, Run.image_eq_of_openScope (openScope_dispensers baseline current bytes state) hrun, ?_, ?_⟩
  · simp only [ImageSummary.isPass_ofRecords, Run.forall_judged_iff, Run.isOk_verdict_iff]
    exact forall₂_congr fun _ _ => Model.same_iff_listsAs
  · intro before scenario after hscenarios hbefore hscenario
    obtain ⟨mishap, hverdict, hrecord⟩ := Model.exists_mishap config.context hscenario
    rw [hscenarios]
    exact ⟨_, hrecord, Run.summary_of_mishap
      (fun earlier hmem => Run.isOk_verdict_iff.mpr (Model.same_iff_listsAs.mpr (hbefore earlier hmem))) hverdict name⟩

/-- Models pass that differ in a type hidden by another of its token; what fails is a signature that has a blob on the
baseline only. -/
theorem image_verdict_unresolved :
    let first : TypeDef := { token := ⟨0x02000002⟩, methods := [⟨⟨0x06000001⟩, []⟩] }
    let baseline : Model :=
      { types := [first, { token := first.token }], signatures := [⟨0x11000001⟩, ⟨0x11000002⟩]
        blobs := [(⟨0x11000001⟩, [7]), (⟨0x11000002⟩, [7, 1])] }
    let current : Model := { baseline with types := [first, first], blobs := [(⟨0x11000001⟩, [7])] }
    let config : RunConfig := { bufferCapacity := 0, scenarios := [.typeHierarchy, .signatureBlobs, .userStrings] }
    baseline.Countable ∧ current.Countable ∧ baseline.types ≠ current.types ∧
    ∃ (summary : ImageSummary) (state : DispenserState × DispenserState) (record : ScenarioRecord),
      (Run.image config "unresolved" (dispensers (baseline, {}) (current, {})) []).run ({}, {}) =
        (some summary, state) ∧
      ¬ summary.isPass ∧ Model.FailsAs baseline current 3 .signatureBlobs record ∧
      current.unresolved? .signatureBlobs = some ⟨0x11000002⟩ ∧ summary.records[1]? = some record ∧
      summary.firstFailure? = some record := by
  intro first baseline current config
  have hbaseline : baseline.Countable := Model.countable_of_size_lt (by decide) (by decide)
  have hcurrent : current.Countable := Model.countable_of_size_lt (by decide) (by decide)
  have hunresolved : current.unresolved? .signatureBlobs = some ⟨0x11000002⟩ := by decide
  have hearlier : ∀ earlier ∈ [Scenario.typeHierarchy], baseline.ListsAs current earlier := by
    simp only [List.mem_singleton, forall_eq]
    exact ⟨.tokens [⟨0x02000002⟩, ⟨0x06000001⟩, ⟨0x02000002⟩, ⟨0x06000001⟩], rfl, rfl⟩
  have hfails : ¬ baseline.ListsAs current .signatureBlobs := by
    rintro ⟨listing, -, hlisting⟩
    rw [Model.listing_of_unresolved hunresolved] at hlisting
    cases hlisting
  obtain ⟨summary, state, hrun, hpass, hfirst⟩ := image_verdict baseline current hbaseline hcurrent config "unresolved" []
    ({}, {})
  obtain ⟨record, hrecord, hposition, hfailure, -⟩ := hfirst [.typeHierarchy] .signatureBlobs [.userStrings] rfl hearlier
    hfails
  refine ⟨hbaseline, hcurrent, by decide, summary, state, record, hrun, ?_, hrecord, hunresolved, hposition, hfailure⟩
  exact fun h => hfails (hpass.mp h .signatureBlobs (by simp [config]))

end Memory

end MetaParity
