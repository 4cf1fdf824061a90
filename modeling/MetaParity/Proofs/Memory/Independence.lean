import MetaParity.Proofs.Memory.Parity

/-! # Scenarios do not influence one another

Whatever an in-memory session was used for, and whatever its faults, a scenario has the same answer on it. What a run
records of a scenario therefore depends neither on the scenarios before it nor on the sessions it is run on. -/

namespace MetaParity

namespace Memory

variable {model : Model} {faults : FaultPlan} {cursor : Cursor} {state : State} {query : Query} {position : Nat}

/-! ## Pages and drains under any faults -/

/-- What a page answers at a position of an enumeration, what it leaves in the buffer, and how many items it takes. -/
def pageAt (model : Model) (faults : FaultPlan) (query : Query) (position : Nat) (buffer : Buffer) :
    Except Failure (List Token) × Buffer × Nat :=
  match Iterator.fault? faults ⟨query, none⟩ with
  | some status => (.error (.pagingFailed query status), buffer.write [], 0)
  | none =>
    let taken := ((model.items query).drop position).take buffer.capacity
    let claimed := taken.length + if faults.pageOverrun = some query.kind ∧ taken ≠ [] then 1 else 0
    (if claimed > buffer.capacity then .error (.pageOverrun query claimed buffer.capacity)
      else .ok ((buffer.write taken).first claimed),
      buffer.write taken, taken.length)

theorem OpenAt.page_eq_pageAt (h : OpenAt model cursor state position) (faults : FaultPlan) (buffer : Buffer) :
    ∃ state', cursor.page (session model faults) buffer state =
        ((pageAt model faults cursor.query position buffer).1, cursor,
          (pageAt model faults cursor.query position buffer).2.1, state') ∧
      OpenAt model cursor state' (position + (pageAt model faults cursor.query position buffer).2.2) := by
  unfold Cursor.page pageAt Iterator.fault?
  rw [page_of_isOpened model faults h.isOpened, pageOf, h.get?_eq]
  dsimp only
  cases faults.paging.filter (·.1 = cursor.query.kind) with
  | some fault => exact ⟨state, rfl, h⟩
  | none => exact ⟨_, rfl, h.moved _⟩

theorem length_drop_pageAt_lt {buffer : Buffer} {token : Token} {more : List Token}
    (h : (pageAt model faults query position buffer).1 = .ok (token :: more)) :
    ((model.items query).drop (position + (pageAt model faults query position buffer).2.2)).length <
      ((model.items query).drop position).length := by
  unfold pageAt at h ⊢
  split at h
  · cases h
  · dsimp only at h ⊢
    have hlength := List.length_take (l := (model.items query).drop position) (i := buffer.capacity)
    cases htaken : ((model.items query).drop position).take buffer.capacity with
    | nil =>
        rw [htaken] at h
        simp [Buffer.first] at h
    | cons first rest =>
        rw [htaken, List.length_cons, List.length_drop] at hlength
        simp only [List.length_drop, List.length_cons]
        omega

/-- A drain ends by itself, and neither what it produces nor where it ends depends on the state of the session. -/
theorem exists_drainFrom (faults : FaultPlan) (query : Query) {position fuel : Nat} (buffer : Buffer)
    (hfuel : ((model.items query).drop position).length < fuel) :
    ∃ drained stop, drained.stop ≠ some .exhausted ∧ ∀ {cursor state}, cursor.query = query →
      OpenAt model cursor state position → ∃ state',
        cursor.drainFrom (session model faults) fuel buffer state = (drained, cursor, state') ∧
        OpenAt model cursor state' stop := by
  induction fuel generalizing position buffer with
  | zero => exact absurd hfuel (Nat.not_lt_zero _)
  | succ fuel ih =>
      rcases hpage : pageAt model faults query position buffer with ⟨result, next, taken⟩
      -- A page answers the same in every state, and so does the rest of the drain behind it.
      have hstep : ∀ {cursor state}, cursor.query = query → OpenAt model cursor state position → ∃ state',
          cursor.page (session model faults) buffer state = (result, cursor, next, state') ∧
          OpenAt model cursor state' (position + taken) := by
        rintro cursor state rfl h
        have hcursor := h.page_eq_pageAt faults buffer
        rwa [hpage] at hcursor
      cases result with
      | error failure =>
          refine ⟨⟨[], some (.failed failure)⟩, position + taken, by simp, fun hquery h => ?_⟩
          obtain ⟨state', hrun, hopen⟩ := hstep hquery h
          exact ⟨state', by rw [Cursor.drainFrom, hrun], hopen⟩
      | ok tokens =>
          cases tokens with
          | nil =>
              refine ⟨⟨[], none⟩, position + taken, by simp, fun hquery h => ?_⟩
              obtain ⟨state', hrun, hopen⟩ := hstep hquery h
              exact ⟨state', by rw [Cursor.drainFrom, hrun], hopen⟩
          | cons token more =>
              have hless := length_drop_pageAt_lt (congrArg Prod.fst hpage)
              rw [hpage] at hless
              obtain ⟨rest, stop, hends, hrest⟩ := ih next (Nat.lt_of_lt_of_le hless (Nat.le_of_lt_succ hfuel))
              refine ⟨⟨token :: more ++ rest.tokens, rest.stop⟩, stop, hends, fun hquery h => ?_⟩
              obtain ⟨state₁, hrun, hopen⟩ := hstep hquery h
              obtain ⟨state₂, hrun', hopen'⟩ := hrest hquery hopen
              exact ⟨state₂, by rw [Cursor.drainFrom, hrun]; dsimp only; rw [hrun'], hopen'⟩

/-! ## Scenarios -/

theorem exists_yields_drain (model : Model) (faults : FaultPlan) (capacity : Nat) (iterator : Iterator) :
    ∃ answer iterator', Drive.Yields (Stands model iterator) (CursorDrive.drain (session model faults) capacity) answer
      (Stands model iterator') := by
  rcases iterator with ⟨query, position⟩
  have hfuel : ((model.items query).drop (position.getD 0)).length < model.size + 1 := by
    have hitems := model.length_items_le query
    rw [List.length_drop]
    omega
  obtain ⟨drained, stop, hends, hdrain⟩ := exists_drainFrom faults query (.empty (max capacity 1)) hfuel
  obtain ⟨answer, hanswer⟩ := Drained.exists_answer hends
  refine ⟨answer, ⟨query, some stop⟩, ?_⟩
  intro use hstands
  cases hstands with
  | unopened _ state =>
      have hopen : OpenAt model _ _ 0 := .created query state
      obtain ⟨state', hrun, hopen'⟩ := hdrain rfl hopen
      have hdrained := (drain_unopened query capacity state).trans hrun
      rw [CursorDrive.run_drain, hdrained]
      exact ⟨hanswer, .opened hopen'⟩
  | opened hopen =>
      obtain ⟨state', hrun, hopen'⟩ := hdrain rfl hopen
      have hdrained : Cursor.drain (session model faults) capacity _ _ = _ := hrun
      rw [CursorDrive.run_drain, hdrained]
      exact ⟨hanswer, .opened hopen'⟩

/-- What a driver does with a session does not depend on the state of the session. -/
theorem concurrent_self (model : Model) (faults : FaultPlan) (capacity : Nat) :
    (Lister.of (session model faults) capacity).Concurrent (Lister.of (session model faults) capacity)
      (footing model faults) (footing model faults) where
  lookup token :=
    Drive.concur_ofExcept (fun _ => (signature model faults token).mapError (.lookupFailed token)) id
      (fun _ => ⟨rfl, trivial⟩) (fun _ => ⟨rfl, trivial⟩)
  drain iterator := by
    obtain ⟨answer, iterator', hanswer⟩ := exists_yields_drain model faults _ iterator
    exact ⟨answer, iterator', hanswer, hanswer⟩
  count := Drive.concur_ofExcept (fun iterator => .ok (iterator.count model faults)) id Stands.count Stands.count
  reset offset := Drive.concur_ofExcept (fun iterator => (iterator.reset faults offset).1)
    (fun iterator => (iterator.reset faults offset).2) (·.reset offset) (·.reset offset)

theorem exists_yields_scenario (model : Model) (faults : FaultPlan) (capacity : Nat) (scenario : Scenario) (side : Side)
    (strictReset : Bool) :
    ∃ answer, Drive.Yields (fun _ => True) (scenario.run (Lister.of (session model faults) capacity) side strictReset)
      answer (fun _ => True) := by
  obtain ⟨answer, hanswer, -⟩ := (concurrent_self model faults capacity).scenario scenario side strictReset
  exact ⟨answer, hanswer⟩

end Memory

/-! ## Records and earlier runs -/

namespace Run

variable {ω : Type}

def recordOf (scenario : Scenario) : Except Mishap (Nat × Nat) → ScenarioRecord
  | .ok (baseline, current) =>
    { scenario, outcome := .passed, baselineItems := some baseline, currentItems := some current }
  | .error mishap => mishap.record scenario

/-- The states that earlier runs of scenarios on a pair of sessions lead to, under whatever settings and however they
ended. -/
inductive Earlier (pair : SessionPair ω) (opened : ω) : ω → Prop where
  | opened : Earlier pair opened opened
  | execute {s} (config : RunConfig) (scenario : Scenario) : Earlier pair opened s →
      Earlier pair opened ((execute config pair scenario).run s).2

theorem judged_eq_recordOf {verdicts : Scenario → Except Mishap (Nat × Nat)} {scenarios : List Scenario}
    {record : ScenarioRecord} (hmem : record ∈ judged verdicts scenarios) (hexecuted : record.outcome.isSkipped = false) :
    record = recordOf record.scenario (verdicts record.scenario) := by
  induction scenarios with
  | nil => simp [judged] at hmem
  | cons scenario scenarios ih =>
      cases hverdict : verdicts scenario with
      | ok items =>
          rw [judged_cons_of_ok hverdict, List.mem_cons] at hmem
          rcases hmem with rfl | hmem
          · rw [hverdict]
            rfl
          · exact ih hmem
      | error mishap =>
          rw [judged_cons_of_error hverdict, List.mem_cons] at hmem
          rcases hmem with rfl | hmem
          · dsimp only [Mishap.record]
            rw [hverdict]
            rfl
          · obtain ⟨skipped, _, rfl⟩ := List.mem_map.mp hmem
            simp [Outcome.isSkipped] at hexecuted

theorem Earlier.preserves {P : ω → Prop} {pair : SessionPair ω} {opened s : ω} (h : Earlier pair opened s)
    (hsettled : ∀ config, ∃ answers, Settled P config pair answers) (hopened : P opened) : P s := by
  induction h with
  | opened => exact hopened
  | execute config scenario _ ih =>
      obtain ⟨answers, hanswers⟩ := hsettled config
      obtain ⟨s', hrun, hs'⟩ := hanswers.execute scenario ih
      rw [hrun]
      exact hs'

end Run

namespace Memory

/-! ## Pairs of sessions -/

def pairAt (baseline current : Model × FaultPlan) (i j : Nat) : SessionPair (DispenserState × DispenserState) where
  baseline := { ((session baseline.1 baseline.2).within (sessionPart i)).within .first with release := id }
  current := { ((session current.1 current.2).within (sessionPart j)).within .second with release := id }

def HoldsAt (i j : Nat) (state : DispenserState × DispenserState) : Prop :=
  i < state.1.tables.length ∧ j < state.2.tables.length

/-- Two dispensers, used for whatever before, opened a pair of sessions and were left in a state. -/
def Opens (baseline current : Model × FaultPlan) (pair : SessionPair (DispenserState × DispenserState))
    (opened : DispenserState × DispenserState) : Prop :=
  ∃ bytes state, (dispensers baseline current).openScope bytes state = (.ok pair, opened)

theorem openScope_of_opening {baseline current : Model × FaultPlan} (hbaseline : baseline.2.opening = none)
    (hcurrent : current.2.opening = none) (bytes : Bytes) (state : DispenserState × DispenserState) :
    (dispensers baseline current).openScope bytes state =
      (.ok (pairAt baseline current state.1.tables.length state.2.tables.length),
        { state.1 with tables := state.1.tables ++ [{}] }, { state.2 with tables := state.2.tables ++ [{}] }) := by
  unfold dispensers DispenserPair.openScope dispenser
  simp only [hbaseline, hcurrent]
  rfl

theorem opening_of_openScope {baseline current : Model × FaultPlan} {bytes : Bytes}
    {state opened : DispenserState × DispenserState} {pair : SessionPair (DispenserState × DispenserState)}
    (h : (dispensers baseline current).openScope bytes state = (.ok pair, opened)) :
    baseline.2.opening = none ∧ current.2.opening = none := by
  unfold dispensers DispenserPair.openScope dispenser at h
  cases hbaseline : baseline.2.opening with
  | some status => simp [hbaseline] at h
  | none =>
      cases hcurrent : current.2.opening with
      | some status => simp [hbaseline, hcurrent] at h
      | none => exact ⟨rfl, rfl⟩

theorem Opens.exists_eq {baseline current : Model × FaultPlan} {pair : SessionPair (DispenserState × DispenserState)}
    {opened : DispenserState × DispenserState} (h : Opens baseline current pair opened) :
    ∃ i j, pair = pairAt baseline current i j ∧ HoldsAt i j opened := by
  obtain ⟨bytes, state, h⟩ := h
  obtain ⟨hbaseline, hcurrent⟩ := opening_of_openScope h
  rw [openScope_of_opening hbaseline hcurrent] at h
  cases h
  exact ⟨_, _, rfl, by simp [HoldsAt]⟩

theorem settled_pairAt {baseline current : Model × FaultPlan} {config : RunConfig}
    {answers : Side → Scenario → Except Failure Listing}
    (hanswers : ∀ side scenario, Drive.Yields (fun _ => True)
      (scenario.run (Lister.of (session (side.pick (baseline, current)).1 (side.pick (baseline, current)).2)
        config.bufferCapacity) side config.strictReset) (answers side scenario) (fun _ => True)) (i j : Nat) :
    Run.Settled (HoldsAt i j) config (pairAt baseline current i j) answers := by
  have hbeside : Run.Settled _ config _ answers := Run.settled_beside
    (fun scenario => (hanswers .baseline scenario).within (sessionPart i) (put_sessionPart i))
    (fun scenario => (hanswers .current scenario).within (sessionPart j) (put_sessionPart j))
  simp only [and_true] at hbeside
  exact hbeside

theorem exists_settled (baseline current : Model × FaultPlan) (config : RunConfig) :
    ∃ answers, ∀ i j, Run.Settled (HoldsAt i j) config (pairAt baseline current i j) answers := by
  have hanswer (side : Side) (scenario : Scenario) := exists_yields_scenario (side.pick (baseline, current)).1
    (side.pick (baseline, current)).2 config.bufferCapacity scenario side config.strictReset
  choose answers hanswers using hanswer
  exact ⟨answers, settled_pairAt hanswers⟩

/-! ## Independence -/

theorem HoldsAt.earlier {baseline current : Model × FaultPlan} {i j : Nat} {opened s : DispenserState × DispenserState}
    (hopened : HoldsAt i j opened) (hearlier : Run.Earlier (pairAt baseline current i j) opened s) : HoldsAt i j s :=
  hearlier.preserves (fun config => (exists_settled baseline current config).imp fun _ h => h i j) hopened

/-- On sessions that were used for whatever scenarios, a scenario ends with the verdict on the answers that either session
has by itself. -/
theorem execute_eq_verdict {baseline current : Model × FaultPlan} {config : RunConfig}
    {answers : Side → Scenario → Except Failure Listing}
    (hanswers : ∀ side scenario, Drive.Yields (fun _ => True)
      (scenario.run (Lister.of (session (side.pick (baseline, current)).1 (side.pick (baseline, current)).2)
        config.bufferCapacity) side config.strictReset) (answers side scenario) (fun _ => True))
    {pair : SessionPair (DispenserState × DispenserState)} {opened s : DispenserState × DispenserState}
    (hopens : Opens baseline current pair opened) (hearlier : Run.Earlier pair opened s) (scenario : Scenario) :
    ((Run.execute config pair scenario).run s).1 =
      some (Run.verdict config.context scenario (answers .baseline scenario) (answers .current scenario)) := by
  obtain ⟨i, j, rfl, hopened⟩ := hopens.exists_eq
  obtain ⟨s', hrun, -⟩ := (settled_pairAt hanswers i j).execute scenario (hopened.earlier hearlier)
  rw [hrun]

/-- Every scenario that a run executes is recorded with the verdict that it has on sessions that were just opened. -/
theorem exists_verdicts (baseline current : Model × FaultPlan) (config : RunConfig) :
    ∃ verdicts : Scenario → Except Mishap (Nat × Nat), ∀ {pair opened s}, Opens baseline current pair opened →
      Run.Earlier pair opened s →
        (∀ scenario, ((Run.execute config pair scenario).run s).1 = some (verdicts scenario)) ∧
        ∀ scenarios image, ∃ s', (Run.sessions { config with scenarios } image pair).run s =
          (some (.ofRecords image (Run.judged verdicts scenarios)), s') := by
  have hanswer (side : Side) (scenario : Scenario) := exists_yields_scenario (side.pick (baseline, current)).1
    (side.pick (baseline, current)).2 config.bufferCapacity scenario side config.strictReset
  choose answers hanswers using hanswer
  refine ⟨fun scenario => Run.verdict config.context scenario (answers .baseline scenario) (answers .current scenario),
    fun hopens hearlier => ⟨execute_eq_verdict hanswers hopens hearlier, fun scenarios image => ?_⟩⟩
  obtain ⟨i, j, rfl, hopened⟩ := hopens.exists_eq
  have hsettled : Run.Settled (HoldsAt i j) { config with scenarios } (pairAt baseline current i j) answers :=
    settled_pairAt hanswers i j
  obtain ⟨s', hrun, -⟩ := hsettled.sessions_eq image (hopened.earlier hearlier)
  exact ⟨s', hrun⟩

/-- A scenario that two runs execute is recorded alike by both, as on sessions that were just opened. Whether an image
passes depends on which scenarios are configured, not on their order and not on how often. -/
theorem scenarios_independent (baseline current : Model × FaultPlan) (hbaseline : baseline.2.opening = none)
    (hcurrent : current.2.opening = none) (config : RunConfig) (scenarios scenarios' : List Scenario)
    (image image' : String) :
    (∀ {pair opened s pair' opened' s' fresh unused}, Opens baseline current pair opened →
      Run.Earlier pair opened s → Opens baseline current pair' opened' → Run.Earlier pair' opened' s' →
      Opens baseline current fresh unused →
        ∃ summary summary', ((Run.sessions { config with scenarios } image pair).run s).1 = some summary ∧
          ((Run.sessions { config with scenarios := scenarios' } image' pair').run s').1 = some summary' ∧
          ∀ record ∈ summary.records, record.outcome.isSkipped = false →
            (∃ verdict, ((Run.execute config fresh record.scenario).run unused).1 = some verdict ∧
              record = Run.recordOf record.scenario verdict) ∧
            ∀ record' ∈ summary'.records, record'.outcome.isSkipped = false → record'.scenario = record.scenario →
              record' = record) ∧
    ∀ bytes bytes' state state', ∃ summary summary',
      ((Run.image { config with scenarios } image (dispensers baseline current) bytes).run state).1 = some summary ∧
      ((Run.image { config with scenarios := scenarios' } image' (dispensers baseline current) bytes').run state').1 =
        some summary' ∧
      ((∀ scenario, scenario ∈ scenarios ↔ scenario ∈ scenarios') → (summary.isPass ↔ summary'.isPass)) := by
  obtain ⟨verdicts, hverdicts⟩ := exists_verdicts baseline current config
  constructor
  · intro pair opened s pair' opened' s' fresh unused hopens hs hopens' hs' hfresh
    obtain ⟨s₁, hrun⟩ := (hverdicts hopens hs).2 scenarios image
    obtain ⟨s₂, hrun'⟩ := (hverdicts hopens' hs').2 scenarios' image'
    have hexecute := (hverdicts hfresh .opened).1
    refine ⟨_, _, congrArg Prod.fst hrun, congrArg Prod.fst hrun', fun record hmem hexecuted => ?_⟩
    have hrecord := Run.judged_eq_recordOf hmem hexecuted
    refine ⟨⟨_, hexecute record.scenario, hrecord⟩, fun record' hmem' hexecuted' hscenario => ?_⟩
    rw [hrecord, Run.judged_eq_recordOf hmem' hexecuted', hscenario]
  · intro bytes bytes' state state'
    have hopen := openScope_of_opening hbaseline hcurrent bytes state
    have hopen' := openScope_of_opening hbaseline hcurrent bytes' state'
    obtain ⟨s₁, hrun⟩ := (hverdicts ⟨bytes, state, hopen⟩ .opened).2 scenarios image
    obtain ⟨s₂, hrun'⟩ := (hverdicts ⟨bytes', state', hopen'⟩ .opened).2 scenarios' image'
    refine ⟨_, _, congrArg Prod.fst (Run.image_eq_of_openScope hopen hrun),
      congrArg Prod.fst (Run.image_eq_of_openScope hopen' hrun'), fun hsame => ?_⟩
    rw [ImageSummary.isPass_ofRecords, ImageSummary.isPass_ofRecords, Run.forall_judged_iff, Run.forall_judged_iff]
    exact forall_congr' fun scenario => imp_congr_left (hsame scenario)

/-- Sessions on which user strings failed before, and the same as they were opened. -/
theorem scenarios_independent_overrun :
    let model := Model.synthetic 2 2 1 1
    let current : FaultPlan := { pageOverrun := some .userStrings }
    let config : RunConfig := { bufferCapacity := 1, strictReset := true }
    let scenarios : List Scenario := [.members, .typeDefs, .userStrings, .signatures]
    let pair := pairAt (model, {}) (model, current) 0 0
    let opened : DispenserState × DispenserState := ({ tables := [{}] }, { tables := [{}] })
    let run := (Run.execute config pair .userStrings).run opened
    let used := run.2
    run.1.map (·.isOk) = some false ∧ current.opening = none ∧ Opens (model, {}) (model, current) pair opened ∧
    Run.Earlier pair opened used ∧ used ≠ opened ∧
    ∃ summary summary', ((Run.sessions { config with scenarios } "used" pair).run used).1 = some summary ∧
      ((Run.sessions { config with scenarios := scenarios.reverse } "fresh" pair).run opened).1 = some summary' ∧
      ∀ record ∈ summary.records, record.outcome.isSkipped = false →
        ∀ record' ∈ summary'.records, record'.outcome.isSkipped = false → record'.scenario = record.scenario →
          record' = record := by
  intro model current config scenarios pair opened run used
  have hfailed : run.1.map (·.isOk) = some false := by
    decide +kernel
  have hopens : Opens (model, {}) (model, current) pair opened := ⟨[], ({}, {}), rfl⟩
  have hused : Run.Earlier pair opened used := .execute config .userStrings .opened
  have hdiffers : used ≠ opened := by
    decide +kernel
  obtain ⟨summary, summary', hrun, hrun', hsame⟩ :=
    (scenarios_independent (model, {}) (model, current) rfl rfl config scenarios scenarios.reverse "used" "fresh").1
      hopens hused hopens .opened hopens
  exact ⟨hfailed, rfl, hopens, hused, hdiffers, summary, summary', hrun, hrun', fun record hmem hexecuted =>
    (hsame record hmem hexecuted).2⟩

end Memory

end MetaParity
