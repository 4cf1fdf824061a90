import MetaParity.Proofs.Run.Passing
import Mathlib.Data.Option.Basic

/-! # Runs with the sides exchanged

A comparison finds the same position whichever listing comes first. A run reports on two sides what it would report had
they changed places, seen from the other side, except that of two failures in one scenario it tells the baseline's. -/

namespace MetaParity

/-! ## Comparisons -/

structure Divergence.Mirrors (divergence mirrored : Divergence) : Prop where
  scenario_eq : mirrored.scenario = divergence.scenario
  index_eq : mirrored.index = divergence.index
  baseline_eq : mirrored.baseline = divergence.current
  current_eq : mirrored.current = divergence.baseline
  baselineLength_eq : mirrored.baselineLength = divergence.currentLength
  currentLength_eq : mirrored.currentLength = divergence.baselineLength

namespace Compare

variable {α : Type} [Listed α]

theorem firstDifference_comm (hsame : ∀ b c : α, Listed.same b c = Listed.same c b) (baseline current : List α) :
    firstDifference current baseline = firstDifference baseline current := by
  induction baseline generalizing current with
  | nil => cases current <;> rfl
  | cons b baseline ih =>
      cases current with
      | nil => rfl
      | cons c current => rw [firstDifference, firstDifference, hsame c b, ih]

theorem listingsBy_mirrors (hsame : ∀ b c : α, Listed.same b c = Listed.same c b) (differ : Diff.Differ) (context : Nat)
    (scenario : String) (baseline current : List α) :
    Option.Rel Divergence.Mirrors (listingsBy differ context scenario baseline current)
      (listingsBy differ context scenario current baseline) := by
  unfold listingsBy
  rw [firstDifference_comm hsame baseline current]
  cases firstDifference baseline current with
  | none => exact .none
  | some index => exact .some ⟨rfl, rfl, rfl, rfl, rfl, rfl⟩

end Compare

/-- Items of one sort count as equal whichever comes first, and so do listings. -/
theorem Listing.compare_mirrors (context : Nat) (scenario : Scenario) (baseline current : Listing) :
    Option.Rel Divergence.Mirrors (baseline.compare context scenario current)
      (current.compare context scenario baseline) := by
  have htexts : ∀ b c : String, Listed.same b c = Listed.same c b := fun _ _ => BEq.comm
  cases baseline with
  | tokens b =>
      cases current with
      | tokens c => exact Compare.listingsBy_mirrors (fun _ _ => BEq.comm) ..
      | records c | blobs c => exact Compare.listingsBy_mirrors htexts ..
  | records b =>
      cases current with
      | records c => exact Compare.listingsBy_mirrors (fun _ _ => BEq.comm) ..
      | tokens c | blobs c => exact Compare.listingsBy_mirrors htexts ..
  | blobs b =>
      cases current with
      | blobs c => exact Compare.listingsBy_mirrors (fun _ _ => BEq.comm) ..
      | tokens c | records c => exact Compare.listingsBy_mirrors htexts ..

theorem Listing.compare_eq_none_or_mirrors (context : Nat) (scenario : Scenario) (baseline current : Listing) :
    (baseline.compare context scenario current = none ∧ current.compare context scenario baseline = none) ∨
    ∃ divergence mirrored, baseline.compare context scenario current = some divergence ∧
      current.compare context scenario baseline = some mirrored ∧ divergence.Mirrors mirrored := by
  have hcompare := Listing.compare_mirrors context scenario baseline current
  generalize baseline.compare context scenario current = compared at hcompare ⊢
  generalize current.compare context scenario baseline = compared' at hcompare ⊢
  cases hcompare with
  | none => exact .inl ⟨rfl, rfl⟩
  | some hmirrors => exact .inr ⟨_, _, rfl, rfl, hmirrors⟩

/-! ## Answers -/

/-- A failure of a session as it is put when the session is on the other side: only a replay names the side. -/
inductive Failure.Mirrors : Failure → Failure → Prop where
  | same (failure) : Mirrors failure failure
  | replay (side detail) : Mirrors (.replayInconsistent side detail) (.replayInconsistent side.other detail)

/-- What a session answers in a scenario, and what it answers there on the other side. -/
inductive Listing.Mirrors : Except Failure Listing → Except Failure Listing → Prop where
  | ok (listing) : Mirrors (.ok listing) (.ok listing)
  | error {failure mirrored : Failure} : failure.isMismatch = false → failure.Mirrors mirrored →
      Mirrors (.error failure) (.error mirrored)

theorem Failure.Mirrors.isMismatch_eq {failure mirrored : Failure} (h : failure.Mirrors mirrored) :
    mirrored.isMismatch = failure.isMismatch := by
  cases h <;> rfl

theorem Failure.Mirrors.symm {failure mirrored : Failure} (h : failure.Mirrors mirrored) : mirrored.Mirrors failure := by
  cases h with
  | same => exact .same failure
  | replay side detail => cases side <;> exact .replay _ detail

theorem Listing.Mirrors.symm {answer mirrored : Except Failure Listing} (h : Mirrors answer mirrored) :
    Mirrors mirrored answer := by
  cases h with
  | ok listing => exact .ok listing
  | error hmismatch hmirrors => exact .error (hmirrors.isMismatch_eq.trans hmismatch) hmirrors.symm

theorem Listing.Mirrors.exists_error_iff {answer mirrored : Except Failure Listing} (h : Mirrors answer mirrored) :
    (∃ failure, answer = .error failure) ↔ ∃ failure, mirrored = .error failure := by
  cases h <;> simp

theorem Replay.check_mirrors (replay : Replay) :
    (replay.check .baseline = .ok () ∧ replay.check .current = .ok ()) ∨
      ∃ detail, replay.check .baseline = .error (.replayInconsistent .baseline detail) ∧
        replay.check .current = .error (.replayInconsistent .current detail) := by
  unfold check
  dsimp only
  split
  · exact .inl ⟨rfl, rfl⟩
  · split
    · exact .inr ⟨_, rfl, rfl⟩
    · split
      · exact .inr ⟨_, rfl, rfl⟩
      · exact .inl ⟨rfl, rfl⟩

theorem Listing.mirrors_self {σ : Type} {scenario : Scenario} {lister : Lister σ} {side : Side} {strictReset : Bool}
    {s : σ} {answer : Except Failure Listing}
    (h : ((scenario.run lister side strictReset).run s).1 = answer.mapError .failed) : Mirrors answer answer := by
  cases answer with
  | ok listing => exact .ok listing
  | error failure =>
      exact .error ((oneSidedCorrespondence lister).scenario scenario side strictReset s failure h) (.same failure)

theorem eq_of_mapError_failed {α : Type} {x y : Except Failure α} (h : x.mapError Stop.failed = y.mapError .failed) :
    x = y := by
  rcases x with failure | a <;> rcases y with failure' | a' <;> cases h <;> rfl

theorem Scenario.mirrors_of_run_resetEnum {σ : Type} {lister : Lister σ} {s : σ} {answer mirrored : Except Failure Listing}
    (hbaseline : ((resetEnum.run lister .baseline true).run s).1 = answer.mapError .failed)
    (hcurrent : ((resetEnum.run lister .current true).run s).1 = mirrored.mapError .failed) :
    Listing.Mirrors answer mirrored := by
  have hrun (side : Side) : ((resetEnum.run lister side true).run s).1 = (lister.replay.run s).1.bind fun replay =>
      ((replay.check side).mapError Stop.failed).bind fun _ => .ok (.tokens replay.tokens) := by
    unfold run
    rw [Drive.run_bind]
    cases (lister.replay.run s).1 with
    | error stop => rfl
    | ok replay =>
        have hcheck : ((Drive.ofExcept fun state => (replay.check side, state)).run (lister.replay.run s).2).1 =
            (replay.check side).mapError .failed := rfl
        dsimp only [Except.bind]
        rw [if_pos rfl, Drive.run_bind, hcheck]
        cases (replay.check side).mapError Stop.failed <;> rfl
  have hself := Listing.mirrors_self hbaseline
  rw [hrun] at hbaseline hcurrent
  cases hreplay : (lister.replay.run s).1 with
  | error stop =>
      rw [hreplay] at hbaseline hcurrent
      obtain rfl := eq_of_mapError_failed (hbaseline.symm.trans hcurrent)
      exact hself
  | ok replay =>
      rw [hreplay, Except.bind] at hbaseline hcurrent
      rcases replay.check_mirrors with ⟨hok, hok'⟩ | ⟨detail, herror, herror'⟩
      · rw [hok] at hbaseline
        rw [hok'] at hcurrent
        obtain rfl := eq_of_mapError_failed (x := .ok _) hbaseline
        obtain rfl := eq_of_mapError_failed (x := .ok _) hcurrent
        exact .ok _
      · rw [herror] at hbaseline
        rw [herror'] at hcurrent
        obtain rfl := eq_of_mapError_failed (x := .error _) hbaseline
        obtain rfl := eq_of_mapError_failed (x := .error _) hcurrent
        exact .error rfl (.replay .baseline detail)

/-- From one state, a scenario has the same answer on either side but for the side that a failure names. -/
theorem Scenario.mirrors_of_run {σ : Type} {scenario : Scenario} {lister : Lister σ} {strictReset : Bool} {s : σ}
    {answer mirrored : Except Failure Listing}
    (hbaseline : ((scenario.run lister .baseline strictReset).run s).1 = answer.mapError .failed)
    (hcurrent : ((scenario.run lister .current strictReset).run s).1 = mirrored.mapError .failed) :
    Listing.Mirrors answer mirrored := by
  have hsame (h : scenario.run lister .baseline strictReset = scenario.run lister .current strictReset) :
      Listing.Mirrors answer mirrored := by
    have hself := Listing.mirrors_self hbaseline
    rw [h] at hbaseline
    obtain rfl := eq_of_mapError_failed (hbaseline.symm.trans hcurrent)
    exact hself
  -- Only the check of a replay looks at the side.
  cases scenario with
  | resetEnum =>
      cases strictReset with
      | false => exact hsame rfl
      | true => exact mirrors_of_run_resetEnum hbaseline hcurrent
  | typeDefs | typeRefs | typeSpecs | moduleRefs | typeHierarchy | members | signatures | sigFromToken | userStrings
  | propertiesEvents | signatureBlobs => exact hsame rfl

/-! ## Records -/

/-- How a scenario is recorded, and how it is once the sides have changed places. Where both sides fail the baseline is
named, whichever of them that is. -/
inductive ScenarioRecord.Mirrors (fails : Side → Scenario → Prop) : ScenarioRecord → ScenarioRecord → Prop where
  | passed (scenario items) : Mirrors fails
      { scenario, outcome := .passed, baselineItems := some items, currentItems := some items }
      { scenario, outcome := .passed, baselineItems := some items, currentItems := some items }
  | skipped (scenario reason) : Mirrors fails { scenario, outcome := .skipped reason }
      { scenario, outcome := .skipped reason }
  | diverged {scenario} {divergence mirrored : Divergence} : (∀ side, ¬ fails side scenario) →
      divergence.Mirrors mirrored → Mirrors fails
        { scenario, outcome := .failed none divergence.text (some divergence)
          baselineItems := some divergence.baselineLength, currentItems := some divergence.currentLength }
        { scenario, outcome := .failed none mirrored.text (some mirrored)
          baselineItems := some mirrored.baselineLength, currentItems := some mirrored.currentLength }
  | alone {scenario} {failure mirrored : Failure} (side : Side) : fails side scenario → ¬ fails side.other scenario →
      failure.Mirrors mirrored → Mirrors fails
        { scenario, outcome := .failed (some side) failure.message none }
        { scenario, outcome := .failed (some side.other) mirrored.message none }
  | both {scenario} {failure mirrored : Failure} : (∀ side, fails side scenario) → Mirrors fails
      { scenario, outcome := .failed (some .baseline) failure.message none }
      { scenario, outcome := .failed (some .baseline) mirrored.message none }

structure ImageSummary.Mirrors (fails : Side → Scenario → Prop) (summary mirrored : ImageSummary) : Prop where
  isPass_eq : mirrored.isPass = summary.isPass
  openError_eq : mirrored.openError.isSome = summary.openError.isSome
  passed_eq : mirrored.passed = summary.passed
  failed_eq : mirrored.failed = summary.failed
  skipped_eq : mirrored.skipped = summary.skipped
  records : List.Forall₂ (ScenarioRecord.Mirrors fails) summary.records mirrored.records
  firstFailure : Option.Rel (ScenarioRecord.Mirrors fails) summary.firstFailure? mirrored.firstFailure?

variable {fails : Side → Scenario → Prop}

theorem Mishap.record_of_side {side : Option Side} {failure : Failure} (h : failure.isMismatch = false)
    (scenario : Scenario) : Mishap.record ⟨side, failure⟩ scenario =
      { scenario, outcome := .failed side failure.message none } := by
  cases failure <;> first | rfl | cases h

theorem ScenarioRecord.Mirrors.outcome_eq {record mirrored : ScenarioRecord} (h : record.Mirrors fails mirrored) :
    mirrored.scenario = record.scenario ∧ mirrored.outcome.isPass = record.outcome.isPass ∧
      mirrored.outcome.isFail = record.outcome.isFail ∧ mirrored.outcome.isSkipped = record.outcome.isSkipped := by
  cases h <;> exact ⟨rfl, rfl, rfl, rfl⟩

namespace ImageSummary

theorem mirrors_openFailed (image : String) (failure failure' : Failure) :
    (openFailed image failure).Mirrors fails (openFailed image failure') :=
  ⟨rfl, rfl, rfl, rfl, rfl, .nil, .none⟩

theorem mirrors_ofRecords (image : String) {records mirrored : List ScenarioRecord}
    (h : List.Forall₂ (ScenarioRecord.Mirrors fails) records mirrored) :
    (ofRecords image records).Mirrors fails (ofRecords image mirrored) := by
  have hcount {p : ScenarioRecord → Bool} (hp : ∀ record mirrored, ScenarioRecord.Mirrors fails record mirrored →
      p mirrored = p record) : mirrored.countP p = records.countP p := by
    induction h with
    | nil => rfl
    | cons hrecord _ ih => rw [List.countP_cons, List.countP_cons, ih, hp _ _ hrecord]
  have hfailed := hcount (p := (·.outcome.isFail)) fun _ _ hrecord => hrecord.outcome_eq.2.2.1
  have hfirst : Option.Rel (ScenarioRecord.Mirrors fails) (records.find? (·.outcome.isFail))
      (mirrored.find? (·.outcome.isFail)) := by
    clear hcount hfailed
    induction h with
    | nil => exact .none
    | cons hrecord _ ih =>
        rw [List.find?_cons, List.find?_cons, hrecord.outcome_eq.2.2.1]
        split
        · exact .some hrecord
        · exact ih
  exact ⟨congrArg (true && · == 0) hfailed, rfl, hcount fun _ _ hrecord => hrecord.outcome_eq.2.1, hfailed,
    hcount fun _ _ hrecord => hrecord.outcome_eq.2.2.2, h, hfirst⟩

end ImageSummary

namespace Run

theorem mirrors_verdict (context : Nat) (scenario : Scenario) {b b' c c' : Except Failure Listing}
    (hb : Listing.Mirrors b b') (hc : Listing.Mirrors c c')
    (hbaseline : fails .baseline scenario ↔ ∃ failure, b = .error failure)
    (hcurrent : fails .current scenario ↔ ∃ failure, c = .error failure) :
    (∃ items, verdict context scenario b c = .ok (items, items) ∧
      verdict context scenario c' b' = .ok (items, items)) ∨
    ∃ mishap mirrored, verdict context scenario b c = .error mishap ∧ verdict context scenario c' b' = .error mirrored ∧
      (mishap.record scenario).Mirrors fails (mirrored.record scenario) := by
  cases hb with
  | error hmismatch hmirrors =>
      cases hc with
      | error hmismatch' hmirrors' =>
          refine .inr ⟨_, _, rfl, rfl, ?_⟩
          rw [Mishap.record_of_side hmismatch, Mishap.record_of_side (hmirrors'.isMismatch_eq.trans hmismatch')]
          refine .both fun side => ?_
          cases side with
          | baseline => exact hbaseline.mpr ⟨_, rfl⟩
          | current => exact hcurrent.mpr ⟨_, rfl⟩
      | ok c =>
          refine .inr ⟨_, _, rfl, rfl, ?_⟩
          rw [Mishap.record_of_side hmismatch, Mishap.record_of_side (hmirrors.isMismatch_eq.trans hmismatch)]
          exact .alone .baseline (hbaseline.mpr ⟨_, rfl⟩) (by simp [hcurrent, Side.other]) hmirrors
  | ok b =>
      cases hc with
      | error hmismatch hmirrors =>
          refine .inr ⟨_, _, rfl, rfl, ?_⟩
          rw [Mishap.record_of_side hmismatch, Mishap.record_of_side (hmirrors.isMismatch_eq.trans hmismatch)]
          exact .alone .current (hcurrent.mpr ⟨_, rfl⟩) (by simp [hbaseline, Side.other]) hmirrors
      | ok c =>
          rcases Listing.compare_eq_none_or_mirrors context scenario b c with
            ⟨hbc, hcb⟩ | ⟨divergence, mirrored, hbc, hcb, hmirrors⟩
          · have hlength := Listing.length_eq_of_compare hbc
            exact .inl ⟨b.length, by rw [verdict, hbc, hlength], by rw [verdict, hcb, hlength]⟩
          · have hneither (side : Side) : ¬fails side scenario := by
              cases side with
              | baseline => simp [hbaseline]
              | current => simp [hcurrent]
            exact .inr ⟨⟨none, .diverged divergence⟩, ⟨none, .diverged mirrored⟩, by rw [verdict, hbc],
              by rw [verdict, hcb], .diverged hneither hmirrors⟩

theorem mirrors_skip (halted : Scenario) (scenarios : List Scenario) :
    List.Forall₂ (ScenarioRecord.Mirrors fails) (skip halted scenarios) (skip halted scenarios) := by
  induction scenarios with
  | nil => exact .nil
  | cons scenario scenarios ih => exact .cons (.skipped scenario _) ih

/-- The records of a run, and those of the run with the answers of either side given by the other. -/
theorem mirrors_judged (context : Nat) (answers mirrored : Side → Scenario → Except Failure Listing)
    (h : ∀ side scenario, Listing.Mirrors (answers side scenario) (mirrored side.other scenario))
    (hfails : ∀ side scenario, fails side scenario ↔ ∃ failure, answers side scenario = .error failure)
    (scenarios : List Scenario) :
    List.Forall₂ (ScenarioRecord.Mirrors fails)
      (judged (fun scenario => verdict context scenario (answers .baseline scenario) (answers .current scenario))
        scenarios)
      (judged (fun scenario => verdict context scenario (mirrored .baseline scenario) (mirrored .current scenario))
        scenarios) := by
  induction scenarios with
  | nil => exact .nil
  | cons scenario scenarios ih =>
      rcases mirrors_verdict context scenario (h .baseline scenario) (h .current scenario) (hfails .baseline scenario)
        (hfails .current scenario) with ⟨items, hpassed, hpassed'⟩ | ⟨mishap, mishap', hmishap, hmishap', hmirrors⟩
      · rw [judged_cons_of_ok hpassed, judged_cons_of_ok hpassed']
        exact .cons (.passed scenario items) ih
      · rw [judged_cons_of_error hmishap, judged_cons_of_error hmishap']
        exact .cons hmirrors (mirrors_skip scenario scenarios)

end Run

end MetaParity
