import MetaParity.Proofs.Compare
import MetaParity.Proofs.Run.Traced

/-! # A run halts at its first failure

A run executes its scenarios in order up to the first that fails and skips the others. Its records, its counters and
the calls that it makes all follow from what one executed scenario records and calls. -/

namespace MetaParity

variable {ω : Type}

/-! ## Records -/

namespace ScenarioRecord

def Passed (record : ScenarioRecord) : Prop :=
  record.outcome = .passed ∧ ∃ items, record.baselineItems = some items ∧ record.currentItems = some items

/-- A failed scenario has a divergence if and only if it is put down to no side, and then the lengths of the divergence
are its item counts. -/
def Failed (record : ScenarioRecord) : Prop :=
  ∃ side reason divergence, record.outcome = .failed side reason divergence ∧
    (divergence.isSome ↔ side = none) ∧
    record.baselineItems = divergence.map (·.baselineLength) ∧
    record.currentItems = divergence.map (·.currentLength)

/-- A scenario skipped after another failed names that one and has no item counts. -/
def SkippedAfter (failed : Scenario) (record : ScenarioRecord) : Prop :=
  record.outcome = .skipped (failed.name ++ " failed") ∧ record.baselineItems = none ∧ record.currentItems = none

end ScenarioRecord

/-- The summary of a run: one record for each scenario, in order, of which those before the first failure passed and
those after it were skipped. -/
structure ImageSummary.Halting (scenarios : List Scenario) (summary : ImageSummary) : Prop where
  scenarios_eq : summary.records.map (·.scenario) = scenarios
  split : ∃ passed failed skipped : List ScenarioRecord,
    summary.records = passed ++ failed ++ skipped ∧
    (∀ record ∈ passed, record.Passed) ∧
    (∀ record ∈ failed, record.Failed) ∧ failed.length ≤ 1 ∧
    (∀ record ∈ skipped, ∃ failure ∈ failed, record.SkippedAfter failure.scenario) ∧
    summary.passed = passed.length ∧ summary.failed = failed.length ∧ summary.skipped = skipped.length ∧
    summary.firstFailure? = failed.head?
  total : summary.passed + summary.failed + summary.skipped = summary.records.length
  isPass_iff : summary.isPass ↔ ∀ record ∈ summary.records, record.outcome.isFail = false

theorem ImageSummary.isPass_ofRecords (image : String) (records : List ScenarioRecord) :
    (ofRecords image records).isPass ↔ ∀ record ∈ records, record.outcome.isFail = false := by
  simp [ofRecords, isPass, List.countP_eq_zero]

theorem Mishap.isSome_divergence? (mishap : Mishap) : mishap.divergence?.isSome = mishap.failure.isMismatch := by
  rcases mishap with ⟨side, _ | _⟩ <;> rfl

/-! ## Calls -/

structure Segment where
  baseline : List Call
  current : List Call

/-- The baseline is driven to its end before the current side is touched. -/
def Segment.calls (segment : Segment) : List (Side × Call) :=
  segment.baseline.map (Side.baseline, ·) ++ segment.current.map (Side.current, ·)

namespace Run

/-- The states that driving the scenarios of a run on either side leads to. -/
inductive Reached (config : RunConfig) (pair : SessionPair ω) (start : ω) : ω → Prop where
  | start : Reached config pair start start
  | list {s} (scenario side) : Reached config pair start s → scenario ∈ config.scenarios →
      Reached config pair start ((list config pair scenario side).run s).2

/-- Every scenario of a run, driven on either side from any state that is reached, ends by itself. -/
def Returns (config : RunConfig) (pair : SessionPair ω) (start : ω) : Prop :=
  ∀ s, Reached config pair start s → ∀ scenario ∈ config.scenarios, ∀ side,
    ((scenario.run (Lister.of (pair.session side).toImport config.bufferCapacity) side config.strictReset).run s).1 ≠
      .error .exhausted

theorem exists_list_eq {config : RunConfig} {pair : SessionPair ω} {start s : ω} (h : Returns config pair start)
    (hs : Reached config pair start s) {scenario : Scenario} (hscenario : scenario ∈ config.scenarios) (side : Side) :
    ∃ answer s', (list config pair scenario side).run s = (some answer, s') ∧ Reached config pair start s' := by
  have hreturns := h s hs scenario hscenario side
  have hreached := hs.list scenario side hscenario
  rw [list_eq] at hreached ⊢
  dsimp only at hreached ⊢
  split
  · exact ⟨_, _, rfl, hreached⟩
  · exact ⟨_, _, rfl, hreached⟩
  · next heq => exact absurd heq hreturns

theorem run_bind {α β : Type} (m : RunM ω α) (f : α → RunM ω β) (s : ω) :
    (m >>= f).run s = match (m.run s).1 with
      | some a => (f a).run (m.run s).2
      | none => (none, (m.run s).2) := by
  change (match m.run s with
    | (answer, s) => (match answer with | some a => (f a).run | none => pure none : StateM ω (Option β)) s) = _
  rcases m.run s with ⟨_ | a, s⟩ <;> rfl

/-! ## One scenario -/

/-- Sides that agree list equally many items, a failure has no side if and only if the listings differ, and the current
side is left alone if the baseline fails. -/
def Attributed (segment : Segment) : Except Mishap (Nat × Nat) → Prop
  | .ok (baseline, current) => baseline = current
  | .error mishap => (mishap.divergence?.isSome ↔ mishap.side = none) ∧
      (mishap.side = some .baseline → segment.current = [])

theorem execute_traced {config : RunConfig} {pair : SessionPair ω} {start s : ω} (h : Returns config pair start)
    (hs : Reached config pair start s) {scenario : Scenario} (hscenario : scenario ∈ config.scenarios)
    (trace : List (Side × Call)) :
    ∃ answer s' segment, (execute config pair scenario).run s = (some answer, s') ∧
      (execute config pair.traced scenario).run (s, trace) = (some answer, s', trace ++ segment.calls) ∧
      Attributed segment answer ∧ Reached config pair start s' := by
  obtain ⟨answer, s₁, hbaseline, hs₁⟩ := exists_list_eq h hs hscenario .baseline
  obtain ⟨baselineCalls, hbaseline'⟩ := list_traced config pair scenario .baseline s trace
  have hside := @side_of_list ω config pair scenario .baseline s
  rw [hbaseline] at hbaseline' hside
  unfold execute
  rw [run_bind, run_bind, hbaseline, hbaseline']
  cases answer with
  | error mishap =>
      obtain ⟨hside, hfailure⟩ := hside rfl
      refine ⟨.error mishap, s₁, ⟨baselineCalls, []⟩, rfl, ?_, ⟨?_, fun _ => rfl⟩, hs₁⟩
      · simp only [Segment.calls, List.map_nil, List.append_nil]
        rfl
      · simp [mishap.isSome_divergence?, hfailure, hside]
  | ok baseline =>
      obtain ⟨answer, s₂, hcurrent, hs₂⟩ := exists_list_eq h hs₁ hscenario .current
      obtain ⟨currentCalls, hcurrent'⟩ := list_traced config pair scenario .current s₁
        (trace ++ baselineCalls.map (Side.baseline, ·))
      -- The current side is driven only here, behind a baseline that listed something.
      have hside := @side_of_list ω config pair scenario .current s₁
      rw [hcurrent] at hcurrent' hside
      dsimp only
      rw [run_bind, run_bind, hcurrent, hcurrent', List.append_assoc]
      cases answer with
      | error mishap =>
          obtain ⟨hside, hfailure⟩ := hside rfl
          refine ⟨.error mishap, s₂, ⟨baselineCalls, currentCalls⟩, rfl, rfl, ⟨?_, ?_⟩, hs₂⟩
          · simp [mishap.isSome_divergence?, hfailure, hside]
          · simp [hside]
      | ok current =>
          dsimp only
          cases hcompare : baseline.compare config.context scenario current with
          | none =>
              exact ⟨.ok (baseline.length, current.length), s₂, ⟨baselineCalls, currentCalls⟩, rfl, rfl,
                Listing.length_eq_of_compare hcompare, hs₂⟩
          | some divergence =>
              exact ⟨.error ⟨none, .diverged divergence⟩, s₂, ⟨baselineCalls, currentCalls⟩, rfl, rfl,
                ⟨by simp [Mishap.divergence?], by simp⟩, hs₂⟩

/-! ## All scenarios -/

inductive Halts : List Scenario → List ScenarioRecord → List Segment → Prop where
  | nil : Halts [] [] []
  | passed {scenarios records segments} (scenario segment items) : Halts scenarios records segments →
      Halts (scenario :: scenarios)
        ({ scenario, outcome := .passed, baselineItems := some items, currentItems := some items } :: records)
        (segment :: segments)
  | failed (scenario scenarios segment mishap) : Attributed segment (.error mishap) →
      Halts (scenario :: scenarios) (mishap.record scenario :: skip scenario scenarios) [segment]

theorem records_of_failed {config : RunConfig} {pair : SessionPair ω} {scenario : Scenario} {s s' : ω}
    {mishap : Mishap} (h : (execute config pair scenario).run s = (some (.error mishap), s'))
    (rest : List Scenario) :
    (Run.records config pair (scenario :: rest)).run s =
      (some (mishap.record scenario :: skip scenario rest), s') := by
  rw [Run.records, run_bind, h]
  rfl

theorem records_of_passed {config : RunConfig} {pair : SessionPair ω} {scenario : Scenario} {s s' : ω}
    {baseline current : Nat} (h : (execute config pair scenario).run s = (some (.ok (baseline, current)), s'))
    (rest : List Scenario) :
    (Run.records config pair (scenario :: rest)).run s =
      (((Run.records config pair rest).run s').1.map fun later =>
          { scenario, outcome := .passed, baselineItems := some baseline, currentItems := some current } :: later,
        ((Run.records config pair rest).run s').2) := by
  rw [Run.records, run_bind, h]
  dsimp only
  rw [run_bind]
  cases ((Run.records config pair rest).run s').1 <;> rfl

/-- A run gives the same records on traced sessions, and the trace of its first `n` scenarios is that of the first `n`
segments. -/
theorem records_traced {config : RunConfig} {pair : SessionPair ω} {start s : ω} (h : Returns config pair start)
    (hs : Reached config pair start s) (scenarios : List Scenario) (hscenarios : scenarios ⊆ config.scenarios)
    (trace : List (Side × Call)) :
    ∃ records s' segments, (Run.records config pair scenarios).run s = (some records, s') ∧
      (Run.records config pair.traced scenarios).run (s, trace) =
        (some records, s', trace ++ segments.flatMap Segment.calls) ∧
      Halts scenarios records segments ∧
      ∀ n, ((Run.records config pair.traced (scenarios.take n)).run (s, trace)).2.2 =
        trace ++ (segments.take n).flatMap Segment.calls := by
  -- The prefixes are carried along: a run of fewer scenarios stops after an earlier segment.
  induction scenarios generalizing s trace with
  | nil => exact ⟨[], s, [], rfl, by simp; rfl, .nil, by simp; rfl⟩
  | cons scenario scenarios ih =>
      obtain ⟨hmem, hscenarios⟩ := List.cons_subset.mp hscenarios
      obtain ⟨answer, s₁, segment, hrun, htraced, hsegment, hs₁⟩ := execute_traced h hs hmem trace
      cases answer with
      | error mishap =>
          refine ⟨_, s₁, [segment], records_of_failed hrun scenarios, ?_, .failed _ _ _ _ hsegment, ?_⟩
          · simpa using records_of_failed htraced scenarios
          · intro n
            cases n with
            | zero => simp; rfl
            | succ n => simp [records_of_failed htraced]
      | ok items =>
          obtain ⟨items, other⟩ := items
          obtain rfl : items = other := hsegment
          obtain ⟨records, s₂, segments, hrest, hrest', hhalts, htake⟩ := ih hs₁ hscenarios (trace ++ segment.calls)
          refine ⟨_, s₂, segment :: segments, ?_, ?_, .passed scenario segment items hhalts, ?_⟩
          · rw [records_of_passed hrun, hrest]
            rfl
          · rw [records_of_passed htraced, hrest', List.flatMap_cons, List.append_assoc]
            rfl
          · intro n
            cases n with
            | zero => simp; rfl
            | succ n =>
                rw [List.take_succ_cons, records_of_passed htraced, htake, List.take_succ_cons, List.flatMap_cons,
                  List.append_assoc]

/-! ## What the records say -/

theorem Halts.scenarios_eq {scenarios : List Scenario} {records : List ScenarioRecord} {segments : List Segment}
    (h : Halts scenarios records segments) : records.map (·.scenario) = scenarios := by
  induction h with
  | nil => rfl
  | passed scenario segment items _ ih => simp [ih]
  | failed scenario scenarios segment mishap _ => simp [Mishap.record, skip, Function.comp_def]

theorem Halts.length_segments {scenarios : List Scenario} {records : List ScenarioRecord} {segments : List Segment}
    (h : Halts scenarios records segments) :
    segments.length = records.countP (·.outcome.isPass) + records.countP (·.outcome.isFail) := by
  induction h with
  | nil => rfl
  | passed scenario segment items _ ih =>
      simp [ih, Outcome.isPass, Outcome.isFail]
      omega
  | failed scenario scenarios segment mishap _ =>
      simp [Mishap.record, skip, Outcome.isPass, Outcome.isFail, List.countP_map, Function.comp_def]

theorem Halts.split {scenarios : List Scenario} {records : List ScenarioRecord} {segments : List Segment}
    (h : Halts scenarios records segments) :
    ∃ passed failed skipped : List ScenarioRecord, records = passed ++ failed ++ skipped ∧
      (∀ record ∈ passed, record.Passed) ∧ (∀ record ∈ failed, record.Failed) ∧ failed.length ≤ 1 ∧
      ∀ record ∈ skipped, ∃ failure ∈ failed, record.SkippedAfter failure.scenario := by
  induction h with
  | nil => exact ⟨[], [], [], rfl, by simp⟩
  | passed scenario segment items _ ih =>
      obtain ⟨passed, failed, skipped, rfl, hpassed, hfailed, hlength, hskipped⟩ := ih
      refine ⟨_ :: passed, failed, skipped, rfl, ?_, hfailed, hlength, hskipped⟩
      exact List.forall_mem_cons.mpr ⟨⟨rfl, items, rfl, rfl⟩, hpassed⟩
  | failed scenario scenarios segment mishap hsegment =>
      refine ⟨[], [mishap.record scenario], skip scenario scenarios, rfl, by simp, ?_, by simp, ?_⟩
      · simpa using ⟨mishap.side, mishap.failure.message, mishap.divergence?, rfl, hsegment.1, rfl, rfl⟩
      · intro record hrecord
        obtain ⟨skipped, _, rfl⟩ := List.mem_map.mp hrecord
        exact ⟨mishap.record scenario, by simp, rfl, rfl, rfl⟩

theorem Halts.current_eq_nil {scenarios : List Scenario} {records : List ScenarioRecord} {segments : List Segment}
    (h : Halts scenarios records segments) {i : Nat} {segment : Segment} {record : ScenarioRecord} {reason : String}
    {divergence : Option Divergence} (hsegment : segments[i]? = some segment) (hrecord : records[i]? = some record)
    (hfailed : record.outcome = .failed (some .baseline) reason divergence) : segment.current = [] := by
  induction h generalizing i with
  | nil => cases hsegment
  | passed scenario other items _ ih =>
      cases i with
      | zero =>
          obtain rfl := Option.some.inj hrecord
          cases hfailed
      | succ i => exact ih hsegment hrecord
  | failed scenario scenarios other mishap hother =>
      cases i with
      | zero =>
          obtain rfl := Option.some.inj hrecord
          obtain rfl := Option.some.inj hsegment
          exact hother.2 (Outcome.failed.inj hfailed).1
      | succ i => simp at hsegment

end Run

namespace ScenarioRecord

theorem Passed.outcome_eq {record : ScenarioRecord} (h : record.Passed) :
    record.outcome.isPass = true ∧ record.outcome.isFail = false ∧ record.outcome.isSkipped = false := by
  rw [h.1]
  decide

theorem Failed.outcome_eq {record : ScenarioRecord} (h : record.Failed) :
    record.outcome.isPass = false ∧ record.outcome.isFail = true ∧ record.outcome.isSkipped = false := by
  obtain ⟨side, reason, divergence, houtcome, _⟩ := h
  rw [houtcome]
  exact ⟨rfl, rfl, rfl⟩

theorem SkippedAfter.outcome_eq {failed : Scenario} {record : ScenarioRecord} (h : record.SkippedAfter failed) :
    record.outcome.isPass = false ∧ record.outcome.isFail = false ∧ record.outcome.isSkipped = true := by
  rw [h.1]
  exact ⟨rfl, rfl, rfl⟩

end ScenarioRecord

namespace Run

private theorem countP_eq_of_forall {α : Type} {p : α → Bool} {b : Bool} {items : List α}
    (h : ∀ item ∈ items, p item = b) : items.countP p = if b then items.length else 0 := by
  cases b with
  | true => exact List.countP_eq_length.mpr h
  | false => exact List.countP_eq_zero.mpr fun item hmem => by simp [h item hmem]

private theorem countP_append_append {α : Type} {p : α → Bool} {b₁ b₂ b₃ : Bool} {first second third : List α}
    (h₁ : ∀ item ∈ first, p item = b₁) (h₂ : ∀ item ∈ second, p item = b₂) (h₃ : ∀ item ∈ third, p item = b₃) :
    (first ++ second ++ third).countP p =
      (if b₁ then first.length else 0) + (if b₂ then second.length else 0) + if b₃ then third.length else 0 := by
  rw [List.countP_append, List.countP_append, countP_eq_of_forall h₁, countP_eq_of_forall h₂, countP_eq_of_forall h₃]

theorem Halts.halting {scenarios : List Scenario} {records : List ScenarioRecord} {segments : List Segment}
    (h : Halts scenarios records segments) (image : String) :
    (ImageSummary.ofRecords image records).Halting scenarios := by
  obtain ⟨passed, failed, skipped, rfl, hpassed, hfailed, hlength, hskipped⟩ := h.split
  have hskip : ∀ record ∈ skipped, record.outcome.isPass = false ∧ record.outcome.isFail = false ∧
      record.outcome.isSkipped = true := by
    intro record hrecord
    obtain ⟨failure, _, hfailure⟩ := hskipped record hrecord
    exact hfailure.outcome_eq
  have hpassCount : (passed ++ failed ++ skipped).countP (·.outcome.isPass) = passed.length :=
    countP_append_append (fun record hrecord => (hpassed record hrecord).outcome_eq.1)
      (fun record hrecord => (hfailed record hrecord).outcome_eq.1) fun record hrecord => (hskip record hrecord).1
  have hfailCount : (passed ++ failed ++ skipped).countP (·.outcome.isFail) = failed.length :=
    (countP_append_append (fun record hrecord => (hpassed record hrecord).outcome_eq.2.1)
      (fun record hrecord => (hfailed record hrecord).outcome_eq.2.1)
      fun record hrecord => (hskip record hrecord).2.1).trans (Nat.zero_add _)
  have hskipCount : (passed ++ failed ++ skipped).countP (·.outcome.isSkipped) = skipped.length :=
    (countP_append_append (fun record hrecord => (hpassed record hrecord).outcome_eq.2.2)
      (fun record hrecord => (hfailed record hrecord).outcome_eq.2.2)
      fun record hrecord => (hskip record hrecord).2.2).trans (Nat.zero_add _)
  have hfind : (passed ++ failed ++ skipped).find? (·.outcome.isFail) = failed.head? := by
    have hpassedNone : passed.find? (·.outcome.isFail) = none :=
      List.find?_eq_none.mpr fun record hrecord => by simp [(hpassed record hrecord).outcome_eq.2.1]
    have hskippedNone : skipped.find? (·.outcome.isFail) = none :=
      List.find?_eq_none.mpr fun record hrecord => by simp [(hskip record hrecord).2.1]
    cases failed with
    | nil => simp [hpassedNone, hskippedNone]
    | cons failure rest => simp [hpassedNone, (hfailed failure (by simp)).outcome_eq.2.1]
  refine ⟨h.scenarios_eq, ⟨passed, failed, skipped, rfl, hpassed, hfailed, hlength, hskipped, hpassCount, hfailCount,
    hskipCount, hfind⟩, ?_, ImageSummary.isPass_ofRecords image _⟩
  simp only [ImageSummary.ofRecords, hpassCount, hfailCount, hskipCount, List.length_append]

/-! ## Runs over arbitrary sessions -/

theorem sessions_eq (config : RunConfig) (image : String) (pair : SessionPair ω) (s : ω) :
    (sessions config image pair).run s =
      (((Run.records config pair config.scenarios).run s).1.map (ImageSummary.ofRecords image),
        ((Run.records config pair config.scenarios).run s).2) := by
  rw [sessions, map_eq_pure_bind, run_bind]
  cases ((Run.records config pair config.scenarios).run s).1 <;> rfl

/-- A run over sessions whose driver calls return records passed scenarios up to the first failure, and skipped ones
after it. Its calls are the segments of the executed scenarios. -/
theorem sessions_halting (config : RunConfig) (image : String) (pair : SessionPair ω) (s : ω)
    (h : Returns config pair s) :
    ∃ (summary : ImageSummary) (s' : ω) (segments : List Segment),
      (sessions config image pair).run s = (some summary, s') ∧
      (sessions config image pair.traced).run (s, []) = (some summary, s', segments.flatMap Segment.calls) ∧
      summary.Halting config.scenarios ∧
      segments.length = summary.passed + summary.failed ∧
      (∀ n, ((Run.records config pair.traced (config.scenarios.take n)).run (s, [])).2.2 =
        (segments.take n).flatMap Segment.calls) ∧
      ∀ (i : Nat) (segment : Segment) (record : ScenarioRecord) (reason : String) (divergence : Option Divergence),
        segments[i]? = some segment → summary.records[i]? = some record →
          record.outcome = .failed (some .baseline) reason divergence → segment.current = [] := by
  obtain ⟨records, s', segments, hrun, htraced, hhalts, htake⟩ :=
    records_traced h .start config.scenarios (List.Subset.refl _) []
  refine ⟨.ofRecords image records, s', segments, ?_, ?_, hhalts.halting image, hhalts.length_segments, ?_, ?_⟩
  · rw [sessions_eq, hrun]
    rfl
  · rw [sessions_eq, htraced]
    rfl
  · simpa using htake
  · intro i segment record reason divergence hsegment hrecord hfailed
    exact hhalts.current_eq_nil hsegment hrecord hfailed

/-- Sessions without tokens, of which the current one cannot page through types. -/
theorem sessions_halting_untyped :
    let session (failing : Bool) : Session Unit :=
      { page := fun _ query _ _ =>
          (⟨⟨1⟩, [], if failing && query == .typeDefs then .error .fail else .ok 0⟩, ())
        count := fun _ _ => (.ok 0, ())
        reset := fun _ _ _ => (.ok (), ())
        close := fun _ _ => ()
        signature := fun _ _ => (.error .recordNotFound, ())
        pageLimit := fun _ => 1
        release := id }
    let pair : SessionPair Unit := ⟨session false, session true⟩
    let config : RunConfig := { scenarios := [.userStrings, .typeDefs, .members] }
    Returns config pair () ∧
    ∃ (summary : ImageSummary) (s' : Unit) (segments : List Segment),
      (sessions config "untyped" pair).run () = (some summary, s') ∧
      (sessions config "untyped" pair.traced).run ((), []) = (some summary, s', segments.flatMap Segment.calls) ∧
      summary.Halting config.scenarios ∧ summary.passed = 1 ∧ summary.failed = 1 ∧ summary.skipped = 1 ∧
      segments.length = 2 := by
  intro session pair config
  have hreturns : Returns config pair () := by
    rintro ⟨⟩ - scenario hscenario side
    simp only [config, List.mem_cons, List.not_mem_nil, or_false] at hscenario
    rcases hscenario with rfl | rfl | rfl <;> cases side <;> decide
  obtain ⟨summary, s', segments, hrun, htraced, hhalting, hlength, -⟩ :=
    sessions_halting config "untyped" pair () hreturns
  have hcounts : ((sessions config "untyped" pair).run ()).1.map (fun summary =>
      (summary.passed, summary.failed, summary.skipped)) = some (1, 1, 1) := by
    decide +kernel
  rw [hrun] at hcounts
  simp only [Option.map_some, Option.some.injEq, Prod.mk.injEq] at hcounts
  obtain ⟨hpassed, hfailed, hskipped⟩ := hcounts
  rw [hpassed, hfailed] at hlength
  exact ⟨hreturns, summary, s', segments, hrun, htraced, hhalting, hpassed, hfailed, hskipped, hlength⟩

end Run

end MetaParity
