import MetaParity.Proofs.Memory.Independence
import MetaParity.Proofs.Run.Mirror

/-! # Models that change places

Two in-memory sides are judged alike whichever of them is the baseline: the same scenarios pass, and the one that fails
does so for the same reason, seen from the other side. -/

namespace MetaParity.Memory

/-- A scenario fails on a session of its own over a model with faults. -/
def Fails (config : RunConfig) (side : Model × FaultPlan) (scenario : Scenario) : Prop :=
  ∃ failure, ((scenario.run (Lister.of (session side.1 side.2) config.bufferCapacity) .baseline
    config.strictReset).run {}).1 = .error (.failed failure)

structure Answers (config : RunConfig) (side : Model × FaultPlan) (answers : Side → Scenario → Except Failure Listing) :
    Prop where
  yields : ∀ place scenario, Drive.Yields (fun _ => True)
    (scenario.run (Lister.of (session side.1 side.2) config.bufferCapacity) place config.strictReset)
    (answers place scenario) (fun _ => True)
  mirrors : ∀ place scenario, Listing.Mirrors (answers place scenario) (answers place.other scenario)
  fails_iff : ∀ place scenario, Fails config side scenario ↔ ∃ failure, answers place scenario = .error failure

theorem exists_answers (config : RunConfig) (side : Model × FaultPlan) : ∃ answers, Answers config side answers := by
  have hanswer (place : Side) (scenario : Scenario) := exists_yields_scenario side.1 side.2 config.bufferCapacity
    scenario place config.strictReset
  choose answers hanswers using hanswer
  have hrun (place : Side) (scenario : Scenario) := (hanswers place scenario {} trivial).1
  have hmirrors (scenario : Scenario) : Listing.Mirrors (answers .baseline scenario) (answers .current scenario) :=
    Scenario.mirrors_of_run (hrun .baseline scenario) (hrun .current scenario)
  have hfails (scenario : Scenario) :
      Fails config side scenario ↔ ∃ failure, answers .baseline scenario = .error failure := by
    unfold Fails
    rw [hrun .baseline scenario]
    cases answers .baseline scenario <;> simp [Except.mapError]
  refine ⟨answers, hanswers, fun place scenario => ?_, fun place scenario => ?_⟩
  · cases place with
    | baseline => exact hmirrors scenario
    | current => exact (hmirrors scenario).symm
  · cases place with
    | baseline => exact hfails scenario
    | current => exact (hfails scenario).trans (hmirrors scenario).exists_error_iff

theorem Answers.image_eq {config : RunConfig} {baseline current : Model × FaultPlan}
    {answers answers' : Side → Scenario → Except Failure Listing} (h : Answers config baseline answers)
    (h' : Answers config current answers') (hbaseline : baseline.2.opening = none) (hcurrent : current.2.opening = none)
    (image : String) (bytes : Bytes) (state : DispenserState × DispenserState) :
    ((Run.image config image (dispensers baseline current) bytes).run state).1 =
      some (.ofRecords image (Run.judged (fun scenario =>
        Run.verdict config.context scenario (answers .baseline scenario) (answers' .current scenario))
          config.scenarios)) := by
  have hyields (side : Side) (scenario : Scenario) : Drive.Yields (fun _ => True)
      (scenario.run (Lister.of (session (side.pick (baseline, current)).1 (side.pick (baseline, current)).2)
        config.bufferCapacity) side config.strictReset) (side.pick (answers, answers') side scenario)
      (fun _ => True) := by
    cases side with
    | baseline => exact h.yields .baseline scenario
    | current => exact h'.yields .current scenario
  have hopen := openScope_of_opening hbaseline hcurrent bytes state
  obtain ⟨s', hrun, -⟩ := (settled_pairAt hyields state.1.tables.length state.2.tables.length).sessions_eq image
    (s := ({ state.1 with tables := state.1.tables ++ [{}] }, { state.2 with tables := state.2.tables ++ [{}] }))
    (by simp [HoldsAt])
  exact congrArg Prod.fst (Run.image_eq_of_openScope hopen hrun)

theorem image_of_opening {config : RunConfig} {baseline current : Model × FaultPlan}
    (h : ¬ (baseline.2.opening = none ∧ current.2.opening = none)) (image : String) (bytes : Bytes)
    (state : DispenserState × DispenserState) :
    ∃ failure, ((Run.image config image (dispensers baseline current) bytes).run state).1 =
      some (.openFailed image failure) := by
  cases hopen : (dispensers baseline current).openScope bytes state with
  | mk result opened =>
      cases result with
      | ok pair => exact absurd (opening_of_openScope hopen) h
      | error failure =>
          refine ⟨failure, ?_⟩
          unfold Run.image
          rw [OptionT.run_mk, hopen]

/-- A run with the sides exchanged ends as the run itself does: as many scenarios pass, fail and are skipped, the same
one fails, and at the same position. Where both sides fail, either run names its baseline. -/
theorem image_mirrors (baseline current : Model × FaultPlan) (config : RunConfig) (image : String)
    (bytes bytes' : Bytes) (state state' : DispenserState × DispenserState) :
    ∃ summary mirrored,
      ((Run.image config image (dispensers baseline current) bytes).run state).1 = some summary ∧
      ((Run.image config image (dispensers current baseline) bytes').run state').1 = some mirrored ∧
      summary.Mirrors (fun side => Fails config (side.pick (baseline, current))) mirrored := by
  by_cases hopening : baseline.2.opening = none ∧ current.2.opening = none
  · obtain ⟨hbaseline, hcurrent⟩ := hopening
    obtain ⟨answers, h⟩ := exists_answers config baseline
    obtain ⟨answers', h'⟩ := exists_answers config current
    refine ⟨_, _, h.image_eq h' hbaseline hcurrent image bytes state, h'.image_eq h hcurrent hbaseline image bytes' state',
      ImageSummary.mirrors_ofRecords image ?_⟩
    refine Run.mirrors_judged config.context (fun side => side.pick (answers, answers') side)
      (fun side => side.pick (answers', answers) side) (fun side scenario => ?_) (fun side scenario => ?_)
      config.scenarios
    · cases side with
      | baseline => exact h.mirrors .baseline scenario
      | current => exact h'.mirrors .current scenario
    · cases side with
      | baseline => exact h.fails_iff .baseline scenario
      | current => exact h'.fails_iff .current scenario
  · obtain ⟨failure, hrun⟩ := image_of_opening hopening image bytes state
    obtain ⟨failure', hrun'⟩ := image_of_opening (fun h => hopening h.symm) image bytes' state'
    exact ⟨_, _, hrun, hrun', ImageSummary.mirrors_openFailed image failure failure'⟩

end MetaParity.Memory
