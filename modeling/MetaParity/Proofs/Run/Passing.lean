import MetaParity.Proofs.Run.Halting
import MetaParity.Proofs.Yields

/-! # When a run passes and how it fails

Where every scenario has one answer on either side, the records of a run are those of the verdicts on these answers. It
passes exactly when the answers are the same in every scenario, and fails by the first for which they are not. -/

namespace MetaParity

theorem Scenario.mem_all (scenario : Scenario) : scenario ∈ all := by
  cases scenario <;> decide

namespace Run

variable {ω : Type} {P : ω → Prop} {config : RunConfig} {pair : SessionPair ω}
  {answers : Side → Scenario → Except Failure Listing}

/-! ## Verdicts -/

/-- How a scenario with known answers ends: a failure of the baseline counts before one of the current side, and without
either the listings are compared. -/
def verdict (context : Nat) (scenario : Scenario) (baseline current : Except Failure Listing) :
    Except Mishap (Nat × Nat) :=
  match baseline, current with
  | .error failure, _ => .error ⟨some .baseline, failure⟩
  | .ok _, .error failure => .error ⟨some .current, failure⟩
  | .ok b, .ok c =>
    match b.compare context scenario c with
    | none => .ok (b.length, c.length)
    | some divergence => .error ⟨none, .diverged divergence⟩

/-- The records of scenarios with known verdicts, up to the first mishap and with those after it skipped. -/
def judged (verdicts : Scenario → Except Mishap (Nat × Nat)) : List Scenario → List ScenarioRecord
  | [] => []
  | scenario :: rest =>
    match verdicts scenario with
    | .ok (baseline, current) =>
      { scenario, outcome := .passed, baselineItems := some baseline, currentItems := some current }
        :: judged verdicts rest
    | .error mishap => mishap.record scenario :: skip scenario rest

theorem isOk_verdict_iff {context : Nat} {scenario : Scenario} {baseline current : Except Failure Listing} :
    (verdict context scenario baseline current).isOk ↔ Listing.Same context scenario baseline current := by
  cases baseline with
  | error failure => simp [verdict, Except.isOk, Except.toBool]
  | ok b =>
      cases current with
      | error failure => simp [verdict, Except.isOk, Except.toBool]
      | ok c =>
          rw [Listing.same_ok_iff, verdict]
          cases b.compare context scenario c <;> simp [Except.isOk, Except.toBool]

theorem verdict_ok_eq_ok_iff {context : Nat} {scenario : Scenario} {b c : Listing} {items : Nat × Nat} :
    verdict context scenario (.ok b) (.ok c) = .ok items ↔
      b.compare context scenario c = none ∧ (b.length, c.length) = items := by
  rw [verdict]
  cases b.compare context scenario c <;> simp

theorem exists_divergence_of_verdict {context : Nat} {scenario : Scenario} {b c : Listing} {mishap : Mishap}
    (h : verdict context scenario (.ok b) (.ok c) = .error mishap) :
    ∃ divergence, mishap = ⟨none, .diverged divergence⟩ := by
  unfold verdict at h
  cases hcompare : b.compare context scenario c with
  | none => simp [hcompare] at h
  | some divergence =>
      simp only [hcompare, Except.error.injEq] at h
      exact ⟨divergence, h.symm⟩

section

variable {verdicts : Scenario → Except Mishap (Nat × Nat)}

theorem judged_cons_of_ok {scenario : Scenario} {baseline current : Nat} (h : verdicts scenario = .ok (baseline, current))
    (rest : List Scenario) :
    judged verdicts (scenario :: rest) =
      { scenario, outcome := .passed, baselineItems := some baseline, currentItems := some current }
        :: judged verdicts rest := by
  rw [judged, h]

theorem judged_cons_of_error {scenario : Scenario} {mishap : Mishap} (h : verdicts scenario = .error mishap)
    (rest : List Scenario) : judged verdicts (scenario :: rest) = mishap.record scenario :: skip scenario rest := by
  rw [judged, h]

theorem length_judged (scenarios : List Scenario) : (judged verdicts scenarios).length = scenarios.length := by
  induction scenarios with
  | nil => rfl
  | cons scenario scenarios ih =>
      cases h : verdicts scenario with
      | ok items => rw [judged_cons_of_ok h, List.length_cons, ih, List.length_cons]
      | error mishap => rw [judged_cons_of_error h, List.length_cons, skip, List.length_map, List.length_cons]

theorem forall_judged_iff (scenarios : List Scenario) :
    (∀ record ∈ judged verdicts scenarios, record.outcome.isFail = false) ↔
      ∀ scenario ∈ scenarios, (verdicts scenario).isOk := by
  induction scenarios with
  | nil => simp [judged]
  | cons scenario scenarios ih =>
      rw [List.forall_mem_cons]
      cases h : verdicts scenario with
      | ok items =>
          rw [judged_cons_of_ok h, List.forall_mem_cons, ih]
          simp [Outcome.isFail, Except.isOk, Except.toBool]
      | error mishap =>
          rw [judged_cons_of_error h, List.forall_mem_cons]
          simp [Mishap.record, Outcome.isFail, Except.isOk, Except.toBool]

/-- The first mishap is recorded behind the scenarios that passed, and nothing but skipped ones behind it. -/
theorem judged_append_cons {before after : List Scenario} {scenario : Scenario} {mishap : Mishap}
    (hbefore : ∀ earlier ∈ before, (verdicts earlier).isOk) (h : verdicts scenario = .error mishap) :
    judged verdicts (before ++ scenario :: after) =
      judged verdicts before ++ mishap.record scenario :: skip scenario after := by
  induction before with
  | nil => exact judged_cons_of_error h after
  | cons earlier before ih =>
      obtain ⟨hearlier, hbefore⟩ := List.forall_mem_cons.mp hbefore
      cases hok : verdicts earlier with
      | ok items => rw [List.cons_append, judged_cons_of_ok hok, judged_cons_of_ok hok, ih hbefore, List.cons_append]
      | error mishap => simp [hok, Except.isOk, Except.toBool] at hearlier

theorem mem_judged_of_ok {before after : List Scenario} {scenario : Scenario} {baseline current : Nat}
    (hbefore : ∀ earlier ∈ before, (verdicts earlier).isOk) (h : verdicts scenario = .ok (baseline, current)) :
    { scenario, outcome := .passed, baselineItems := some baseline, currentItems := some current } ∈
      judged verdicts (before ++ scenario :: after) := by
  induction before with
  | nil =>
      rw [List.nil_append, judged_cons_of_ok h]
      exact List.mem_cons_self
  | cons earlier before ih =>
      obtain ⟨hearlier, hbefore⟩ := List.forall_mem_cons.mp hbefore
      cases hok : verdicts earlier with
      | ok items =>
          rw [List.cons_append, judged_cons_of_ok hok]
          exact List.mem_cons_of_mem _ (ih hbefore)
      | error mishap => simp [hok, Except.isOk, Except.toBool] at hearlier

end

theorem summary_of_mishap {verdicts : Scenario → Except Mishap (Nat × Nat)} {before after : List Scenario}
    {scenario : Scenario} {mishap : Mishap} (hbefore : ∀ earlier ∈ before, (verdicts earlier).isOk)
    (h : verdicts scenario = .error mishap) (image : String) :
    let summary := ImageSummary.ofRecords image (judged verdicts (before ++ scenario :: after))
    summary.records[before.length]? = some (mishap.record scenario) ∧
      summary.firstFailure? = some (mishap.record scenario) ∧ summary.failed = 1 := by
  have hpassed := (forall_judged_iff before).mpr hbefore
  have hskipped : ∀ record ∈ skip scenario after, record.outcome.isFail = false := by
    intro record hrecord
    obtain ⟨skipped, _, rfl⟩ := List.mem_map.mp hrecord
    rfl
  have hfailed : (mishap.record scenario).outcome.isFail = true := rfl
  simp only [ImageSummary.ofRecords, ImageSummary.firstFailure?, judged_append_cons hbefore h]
  refine ⟨?_, ?_, ?_⟩
  · rw [List.getElem?_append_right (Nat.le_of_eq (length_judged before)), length_judged, Nat.sub_self,
      List.getElem?_cons_zero]
  · have hnone : (judged verdicts before).find? (·.outcome.isFail) = none :=
      List.find?_eq_none.mpr fun record hrecord => by simp [hpassed record hrecord]
    rw [List.find?_append, hnone, Option.none_or]
    exact List.find?_cons_of_pos hfailed
  · have hzero : ∀ records : List ScenarioRecord, (∀ record ∈ records, record.outcome.isFail = false) →
        records.countP (·.outcome.isFail) = 0 := fun records hall =>
      List.countP_eq_zero.mpr fun record hrecord => by simp [hall record hrecord]
    rw [List.countP_append, List.countP_cons, hzero _ hpassed, hzero _ hskipped, hfailed]
    rfl

theorem exists_firstFailure {verdicts : Scenario → Except Mishap (Nat × Nat)} {scenarios : List Scenario}
    {image : String} (h : (ImageSummary.ofRecords image (judged verdicts scenarios)).isPass = false) :
    ∃ scenario ∈ scenarios, ∃ mishap, verdicts scenario = .error mishap ∧
      (ImageSummary.ofRecords image (judged verdicts scenarios)).firstFailure? = some (mishap.record scenario) := by
  cases hfind : scenarios.find? fun scenario => !(verdicts scenario).isOk with
  | none =>
      have hall : ∀ scenario ∈ scenarios, (verdicts scenario).isOk := by
        intro scenario hmem
        simpa using List.find?_eq_none.mp hfind scenario hmem
      have hpass := (ImageSummary.isPass_ofRecords image _).mpr ((forall_judged_iff scenarios).mpr hall)
      rw [hpass] at h
      cases h
  | some scenario =>
      obtain ⟨hfails, before, after, rfl, hbefore⟩ := List.find?_eq_some_iff_append.mp hfind
      cases hverdict : verdicts scenario with
      | ok items => simp [hverdict, Except.isOk, Except.toBool] at hfails
      | error mishap =>
          have hok : ∀ earlier ∈ before, (verdicts earlier).isOk := by
            intro earlier hmem
            simpa using hbefore earlier hmem
          exact ⟨scenario, by simp, mishap, hverdict, (summary_of_mishap hok hverdict image).2.1⟩

/-! ## Settled answers -/

/-- Every scenario has one answer on either side, from every state with a property that driving it keeps. -/
def Settled (P : ω → Prop) (config : RunConfig) (pair : SessionPair ω)
    (answers : Side → Scenario → Except Failure Listing) : Prop :=
  ∀ side scenario, Drive.Yields P
    (scenario.run (Lister.of (pair.session side).toImport config.bufferCapacity) side config.strictReset)
    (answers side scenario) P

theorem Settled.list (h : Settled P config pair answers) (scenario : Scenario) (side : Side) {s : ω} (hs : P s) :
    ∃ s', P s' ∧
      (∀ listing, answers side scenario = .ok listing →
        (Run.list config pair scenario side).run s = (some (.ok listing), s')) ∧
      ∀ failure, answers side scenario = .error failure →
        (Run.list config pair scenario side).run s = (some (.error ⟨some side, failure⟩), s') := by
  obtain ⟨hanswer, hstate⟩ := h side scenario s hs
  refine ⟨_, hstate, fun listing heq => ?_, fun failure heq => ?_⟩
  · rw [list_eq]
    dsimp only
    rw [hanswer, heq]
    rfl
  · rw [list_eq]
    dsimp only
    rw [hanswer, heq]
    rfl

theorem Settled.execute (h : Settled P config pair answers) (scenario : Scenario) {s : ω} (hs : P s) :
    ∃ s', (Run.execute config pair scenario).run s =
        (some (verdict config.context scenario (answers .baseline scenario) (answers .current scenario)), s') ∧ P s' := by
  obtain ⟨s₁, hs₁, hok, herror⟩ := h.list scenario .baseline hs
  unfold Run.execute
  rw [run_bind]
  cases hbaseline : answers .baseline scenario with
  | error failure =>
      rw [herror failure hbaseline]
      exact ⟨s₁, rfl, hs₁⟩
  | ok baseline =>
      obtain ⟨s₂, hs₂, hok', herror'⟩ := h.list scenario .current hs₁
      rw [hok baseline hbaseline]
      dsimp only
      rw [run_bind]
      cases hcurrent : answers .current scenario with
      | error failure =>
          rw [herror' failure hcurrent]
          exact ⟨s₂, rfl, hs₂⟩
      | ok current =>
          rw [hok' current hcurrent, verdict]
          dsimp only
          cases baseline.compare config.context scenario current <;> exact ⟨s₂, rfl, hs₂⟩

theorem Settled.records (h : Settled P config pair answers) (scenarios : List Scenario) {s : ω} (hs : P s) :
    ∃ s', (Run.records config pair scenarios).run s = (some (judged (fun scenario =>
        verdict config.context scenario (answers .baseline scenario) (answers .current scenario)) scenarios), s') ∧
      P s' := by
  induction scenarios generalizing s with
  | nil => exact ⟨s, rfl, hs⟩
  | cons scenario scenarios ih =>
      obtain ⟨s₁, hexecute, hs₁⟩ := h.execute scenario hs
      rw [judged]
      cases hverdict : verdict config.context scenario (answers .baseline scenario) (answers .current scenario) with
      | error mishap =>
          rw [hverdict] at hexecute
          exact ⟨s₁, records_of_failed hexecute scenarios, hs₁⟩
      | ok items =>
          rw [hverdict] at hexecute
          obtain ⟨s₂, hrecords, hs₂⟩ := ih hs₁
          refine ⟨s₂, ?_, hs₂⟩
          rw [records_of_passed hexecute, hrecords]
          rfl

theorem Settled.sessions_eq (h : Settled P config pair answers) (image : String) {s : ω} (hs : P s) :
    ∃ s', (Run.sessions config image pair).run s = (some (.ofRecords image (judged (fun scenario =>
        verdict config.context scenario (answers .baseline scenario) (answers .current scenario)) config.scenarios)),
          s') ∧ P s' := by
  obtain ⟨s', hrecords, hs'⟩ := h.records config.scenarios hs
  refine ⟨s', ?_, hs'⟩
  rw [Run.sessions_eq, hrecords]
  rfl

/-- A run over sessions with settled answers ends, and it passes if and only if these are the same in every scenario. -/
theorem Settled.sessions (h : Settled P config pair answers) (image : String) {s : ω} (hs : P s) :
    ∃ summary s', (Run.sessions config image pair).run s = (some summary, s') ∧ P s' ∧
      (summary.isPass ↔ ∀ scenario ∈ config.scenarios,
        Listing.Same config.context scenario (answers .baseline scenario) (answers .current scenario)) := by
  obtain ⟨s', hrun, hs'⟩ := h.sessions_eq image hs
  refine ⟨_, s', hrun, hs', ?_⟩
  simp only [ImageSummary.isPass_ofRecords, forall_judged_iff, isOk_verdict_iff]

theorem image_eq_of_openScope {dispensers : DispenserPair ω} {bytes : Bytes} {name : String} {s s₁ s₂ : ω}
    {summary : ImageSummary} (hopen : dispensers.openScope bytes s = (.ok pair, s₁))
    (hrun : (Run.sessions config name pair).run s₁ = (some summary, s₂)) :
    (Run.image config name dispensers bytes).run s = (some summary, pair.release s₂) := by
  unfold Run.image
  rw [OptionT.run_mk, hopen]
  dsimp only
  rw [hrun]

end Run

end MetaParity
