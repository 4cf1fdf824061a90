import MetaParity.Image
import MetaParity.Proofs.Run.Passing

/-! # Runs in which the sides agree

Whatever the sessions do, a run passes exactly when both sides list every scenario and no comparison finds a difference,
scenario after scenario from the state that the one before left. -/

namespace MetaParity

/-- Steps, one for each item of a list in turn, that lead from a state to another. -/
inductive Along {α σ : Type} (Step : α → σ → σ → Prop) : List α → σ → σ → Prop where
  | nil (s) : Along Step [] s s
  | cons {item items s s₁ s₂} : Step item s s₁ → Along Step items s₁ s₂ → Along Step (item :: items) s s₂

/-- The summary of an image on which both sessions were opened and every scenario passed. -/
structure ImageSummary.Clean (image : String) (scenarios : List Scenario) (summary : ImageSummary) : Prop where
  image_eq : summary.image = image
  openError_eq : summary.openError = none
  scenarios_eq : summary.records.map (·.scenario) = scenarios
  passed : ∀ record ∈ summary.records, record.outcome = .passed

namespace Run

variable {ω : Type} {config : RunConfig} {s s' : ω}

/-! ## Scenarios -/

section

variable {pair : SessionPair ω}

/-- Both sides list a scenario, the baseline first, and a comparison finds no difference. -/
def Agrees (config : RunConfig) (pair : SessionPair ω) (scenario : Scenario) (s s' : ω) : Prop :=
  let listing (side : Side) : Drive ω Listing :=
    scenario.run (Lister.of (pair.session side).toImport config.bufferCapacity) side config.strictReset
  ∃ baseline current s₁, (listing .baseline).run s = (.ok baseline, s₁) ∧
    (listing .current).run s₁ = (.ok current, s') ∧ baseline.compare config.context scenario current = none

theorem run_bind_eq_some_iff {α β : Type} {m : RunM ω α} {f : α → RunM ω β} {b : β} :
    (m >>= f).run s = (some b, s') ↔ ∃ a s₁, m.run s = (some a, s₁) ∧ (f a).run s₁ = (some b, s') := by
  rw [run_bind]
  rcases m.run s with ⟨_ | a, s₁⟩
  · constructor
    · intro h
      cases h
    · rintro ⟨a, s₁, h, -⟩
      cases h
  · constructor
    · intro h
      exact ⟨a, s₁, rfl, h⟩
    · rintro ⟨a, s₁, h, hf⟩
      cases h
      exact hf

theorem list_eq_ok_iff {scenario : Scenario} {side : Side} {listing : Listing} :
    (list config pair scenario side).run s = (some (.ok listing), s') ↔
      (scenario.run (Lister.of (pair.session side).toImport config.bufferCapacity) side config.strictReset).run s =
        (.ok listing, s') := by
  rw [list_eq]
  dsimp only
  rcases (scenario.run _ side config.strictReset).run s with ⟨(failure | _) | other, s₁⟩ <;> constructor <;> intro h <;>
    cases h <;> rfl

theorem execute_eq_ok_iff {scenario : Scenario} :
    (∃ items, (execute config pair scenario).run s = (some (.ok items), s')) ↔ Agrees config pair scenario s s' := by
  constructor
  · rintro ⟨items, hrun⟩
    obtain ⟨answer, s₁, hbaseline, hrun⟩ := run_bind_eq_some_iff.mp hrun
    cases answer with
    | error mishap => cases hrun
    | ok baseline =>
        obtain ⟨answer, s₂, hcurrent, hrun⟩ := run_bind_eq_some_iff.mp hrun
        cases answer with
        | error mishap => cases hrun
        | ok current =>
            cases hcompare : baseline.compare config.context scenario current with
            | some divergence =>
                simp only [hcompare] at hrun
                cases hrun
            | none =>
                obtain rfl : s₂ = s' := by
                  simp only [hcompare] at hrun
                  cases hrun
                  rfl
                exact ⟨baseline, current, s₁, list_eq_ok_iff.mp hbaseline, list_eq_ok_iff.mp hcurrent, hcompare⟩
  · rintro ⟨baseline, current, s₁, hbaseline, hcurrent, hcompare⟩
    refine ⟨(baseline.length, current.length), run_bind_eq_some_iff.mpr ⟨_, _, list_eq_ok_iff.mpr hbaseline, ?_⟩⟩
    refine run_bind_eq_some_iff.mpr ⟨_, _, list_eq_ok_iff.mpr hcurrent, ?_⟩
    simp only [hcompare]
    rfl

theorem records_of_along {scenarios : List Scenario} (h : Along (Agrees config pair) scenarios s s') :
    ∃ records, (Run.records config pair scenarios).run s = (some records, s') ∧
      records.map (·.scenario) = scenarios ∧ ∀ record ∈ records, record.outcome = .passed := by
  induction h with
  | nil start => exact ⟨[], rfl, rfl, by simp⟩
  | cons hscenario _ ih =>
      obtain ⟨items, hexecute⟩ := execute_eq_ok_iff.mpr hscenario
      obtain ⟨records, hrun, hscenarios, hpassed⟩ := ih
      rw [records_of_passed hexecute, hrun]
      exact ⟨_, rfl, by simp [hscenarios], by simpa using hpassed⟩

theorem along_of_records {scenarios : List Scenario} {records : List ScenarioRecord}
    (hrun : (Run.records config pair scenarios).run s = (some records, s'))
    (hpassed : ∀ record ∈ records, record.outcome.isFail = false) : Along (Agrees config pair) scenarios s s' := by
  induction scenarios generalizing s records with
  | nil =>
      cases hrun
      exact .nil _
  | cons scenario scenarios ih =>
      obtain ⟨answer, s₁, hexecute, hrest⟩ := run_bind_eq_some_iff.mp hrun
      cases answer with
      | error mishap =>
          cases hrest
          simp [Mishap.record, Outcome.isFail] at hpassed
      | ok items =>
          obtain ⟨later, s₂, hlater, hcons⟩ := run_bind_eq_some_iff.mp hrest
          cases hcons
          exact .cons (execute_eq_ok_iff.mp ⟨items, hexecute⟩) (ih hlater (List.forall_mem_cons.mp hpassed).2)

end

/-! ## Images -/

variable {dispensers : DispenserPair ω} {image : Image}

/-- Both sessions open on an image, the baseline first, the sides agree on every scenario, and the sessions are given
back. -/
def Passes (config : RunConfig) (dispensers : DispenserPair ω) (image : Image) (s s' : ω) : Prop :=
  ∃ baseline current s₁ s₂ s₃, dispensers.baseline.openScope image.metadata s = (.ok baseline, s₁) ∧
    dispensers.current.openScope image.metadata s₁ = (.ok current, s₂) ∧
    Along (Agrees config ⟨baseline, current⟩) config.scenarios s₂ s₃ ∧ SessionPair.release ⟨baseline, current⟩ s₃ = s'

theorem openScope_eq_ok_iff {bytes : Bytes} {pair : SessionPair ω} :
    dispensers.openScope bytes s = (.ok pair, s') ↔
      ∃ s₁, dispensers.baseline.openScope bytes s = (.ok pair.baseline, s₁) ∧
        dispensers.current.openScope bytes s₁ = (.ok pair.current, s') := by
  unfold DispenserPair.openScope
  constructor
  · intro h
    split at h
    · cases h
    · next baseline s₁ hbaseline =>
      split at h
      · cases h
      · next current s₂ hcurrent =>
        cases h
        exact ⟨s₁, hbaseline, hcurrent⟩
  · rintro ⟨s₁, hbaseline, hcurrent⟩
    simp only [hbaseline, hcurrent]

theorem image_of_passes (h : Passes config dispensers image s s') :
    ∃ summary, (Run.image config image.path dispensers image.metadata).run s = (some summary, s') ∧
      summary.isPass ∧ summary.Clean image.path config.scenarios := by
  obtain ⟨baseline, current, s₁, s₂, s₃, hbaseline, hcurrent, halong, rfl⟩ := h
  obtain ⟨records, hrecords, hscenarios, hpassed⟩ := records_of_along halong
  have hopen : dispensers.openScope image.metadata s = (.ok ⟨baseline, current⟩, s₂) :=
    openScope_eq_ok_iff.mpr ⟨s₁, hbaseline, hcurrent⟩
  have hrun : (sessions config image.path ⟨baseline, current⟩).run s₂ = (some (.ofRecords image.path records), s₃) := by
    rw [sessions_eq, hrecords]
    rfl
  refine ⟨_, image_eq_of_openScope hopen hrun, ?_, rfl, rfl, hscenarios, hpassed⟩
  rw [ImageSummary.isPass_ofRecords]
  intro record hmem
  rw [hpassed record hmem]
  rfl

theorem passes_of_image {summary : ImageSummary}
    (hrun : (Run.image config image.path dispensers image.metadata).run s = (some summary, s'))
    (hpass : summary.isPass) : Passes config dispensers image s s' := by
  unfold Run.image at hrun
  rw [OptionT.run_mk] at hrun
  rcases hopen : dispensers.openScope image.metadata s with ⟨failure | pair, s₂⟩
  · rw [hopen] at hrun
    cases hrun
    cases hpass
  · rw [hopen] at hrun
    dsimp only at hrun
    obtain ⟨s₁, hbaseline, hcurrent⟩ := openScope_eq_ok_iff.mp hopen
    rw [sessions_eq] at hrun
    rcases hrecords : (Run.records config pair config.scenarios).run s₂ with ⟨_ | records, s₃⟩
    · rw [hrecords] at hrun
      cases hrun
    · rw [hrecords] at hrun
      cases hrun
      have halong := along_of_records hrecords ((ImageSummary.isPass_ofRecords _ _).mp hpass)
      exact ⟨pair.baseline, pair.current, s₁, s₂, s₃, hbaseline, hcurrent, halong, rfl⟩

end Run

end MetaParity
