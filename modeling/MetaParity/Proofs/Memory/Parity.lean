import MetaParity.Memory.Session
import MetaParity.Model.Synthetic
import MetaParity.Proofs.Memory.Listing
import MetaParity.Proofs.Model.Agreement
import MetaParity.Proofs.Run.Passing

/-! # Differential runs over models

A run over two well-formed models passes exactly when the models agree. The two sessions live in separate parts of one
state, so neither disturbs the other. -/

namespace MetaParity

variable {ω σ τ : Type}

/-! ## Imports within a larger state -/

/-- As long as a part keeps what is put into it, an import within the part is simulated by the import itself. -/
def Import.withinSimulation (session : Import σ) (part : Part ω σ) (I : ω → Prop)
    (hput : ∀ s w, I w → I (part.put s w) ∧ part.get (part.put s w) = s) :
    Simulation (session.within part) session where
  Rel w s := I w ∧ part.get w = s
  CursorRel x y := x.1 = y.1 ∧ I x.2 ∧ part.get x.2 = y.2
  start _ h := ⟨rfl, h⟩
  page := by
    rintro c w c' s buffer ⟨rfl, hw, rfl⟩
    exact ⟨rfl, rfl, rfl, hput _ w hw⟩
  count := by
    rintro c w c' s ⟨rfl, hw, rfl⟩
    unfold Cursor.count
    split
    · exact ⟨rfl, rfl, hput _ w hw⟩
    · exact ⟨rfl, rfl, hw, rfl⟩
  reset := by
    rintro c w c' s offset ⟨rfl, hw, rfl⟩
    unfold Cursor.reset
    split
    · exact ⟨rfl, rfl, hput _ w hw⟩
    · exact ⟨rfl, rfl, hw, rfl⟩
  close := by
    rintro c w c' s ⟨rfl, hw, rfl⟩
    unfold Cursor.close
    split
    · exact hput _ w hw
    · exact ⟨hw, rfl⟩
  signature := by
    rintro w s token ⟨hw, rfl⟩
    exact ⟨rfl, hput _ w hw⟩
  pageLimit := by
    rintro c w c' s ⟨rfl, hw, rfl⟩
    rfl

theorem Drive.Yields.within {session : Import σ} {I : ω → Prop} {P : σ → Prop} {scenario : Scenario}
    {capacity : Nat} {side : Side} {strictReset : Bool} {answer : Except Failure Listing}
    (h : Yields P (scenario.run (Lister.of session capacity) side strictReset) answer P) (part : Part ω σ)
    (hput : ∀ s w, I w → I (part.put s w) ∧ part.get (part.put s w) = s) :
    Yields (fun w => I w ∧ P (part.get w))
      (scenario.run (Lister.of (session.within part) capacity) side strictReset) answer
      (fun w => I w ∧ P (part.get w)) := by
  intro w hw
  obtain ⟨hanswer, s, ⟨hinv, rfl⟩, hs⟩ := h.of_matches
    ((session.withinSimulation part I hput).scenario capacity scenario side strictReset) w ⟨_, ⟨hw.1, rfl⟩, hw.2⟩
  exact ⟨hanswer, hinv, hs⟩

theorem Run.settled_beside {P : σ → Prop} {Q : τ → Prop} {baseline : Import σ} {current : Import τ} {config : RunConfig}
    {answers : Side → Scenario → Except Failure Listing}
    (hbaseline : ∀ scenario, Drive.Yields P
      (scenario.run (Lister.of baseline config.bufferCapacity) .baseline config.strictReset) (answers .baseline scenario) P)
    (hcurrent : ∀ scenario, Drive.Yields Q
      (scenario.run (Lister.of current config.bufferCapacity) .current config.strictReset) (answers .current scenario) Q) :
    Settled (fun state => P state.1 ∧ Q state.2) config
      { baseline := { baseline.within .first with release := id }
        current := { current.within .second with release := id } } answers := by
  intro side scenario
  cases side with
  | baseline =>
      have hkept : ∀ (s : σ) (state : σ × τ), Q state.2 →
          Q (Part.first.put s state).2 ∧ Part.first.get (Part.first.put s state) = s :=
        fun _ _ h => ⟨h, rfl⟩
      intro state hstate
      obtain ⟨hanswer, hstate⟩ := (hbaseline scenario).within .first hkept state hstate.symm
      exact ⟨hanswer, hstate.symm⟩
  | current =>
      have hkept : ∀ (t : τ) (state : σ × τ), P state.1 →
          P (Part.second.put t state).1 ∧ Part.second.get (Part.second.put t state) = t :=
        fun _ _ h => ⟨h, rfl⟩
      exact (hcurrent scenario).within .second hkept

namespace Memory

/-! ## Two sessions side by side -/

theorem put_sessionPart (position : Nat) (inner : State) (held : DispenserState)
    (h : position < held.tables.length) :
    position < ((sessionPart position).put inner held).tables.length ∧
      (sessionPart position).get ((sessionPart position).put inner held) = inner := by
  simp [sessionPart, List.getD_eq_getElem?_getD, h]

def IdleAt (position : Nat) (held : DispenserState) : Prop :=
  position < held.tables.length ∧ Idle ((sessionPart position).get held)

def sessionsAt (baseline current : Model) (skew skew' : Option (Kind × Int)) (i j : Nat) :
    SessionPair (DispenserState × DispenserState) where
  baseline := { ((session baseline (.skewed skew)).within (sessionPart i)).within .first with release := id }
  current := { ((session current (.skewed skew')).within (sessionPart j)).within .second with release := id }

theorem yields_sessionPart {model : Model} (hcountable : model.Countable) (skew : Option (Kind × Int))
    (position capacity : Nat) (scenario : Scenario) (side : Side) (strictReset : Bool) :
    Drive.Yields (IdleAt position)
      (scenario.run (Lister.of ((session model (.skewed skew)).within (sessionPart position)) capacity) side strictReset)
      (model.listingUnder (.skewed skew) side strictReset scenario) (IdleAt position) :=
  (yields_scenario model skew capacity hcountable scenario side strictReset).within (sessionPart position)
    (put_sessionPart position)

theorem settled_sessionsUnder {baseline current : Model} (hbaseline : baseline.Countable)
    (hcurrent : current.Countable) (skew skew' : Option (Kind × Int)) (config : RunConfig) (i j : Nat) :
    Run.Settled (fun state => IdleAt i state.1 ∧ IdleAt j state.2) config
      (sessionsAt baseline current skew skew' i j) fun side =>
        (side.pick (baseline, current)).listingUnder (.skewed (side.pick (skew, skew'))) side config.strictReset :=
  Run.settled_beside
    (fun scenario => yields_sessionPart hbaseline skew i config.bufferCapacity scenario .baseline config.strictReset)
    (fun scenario => yields_sessionPart hcurrent skew' j config.bufferCapacity scenario .current config.strictReset)

theorem settled_sessionsAt {baseline current : Model} (hbaseline : baseline.Countable) (hcurrent : current.Countable)
    (config : RunConfig) (i j : Nat) :
    Run.Settled (fun state => IdleAt i state.1 ∧ IdleAt j state.2) config (sessionsAt baseline current none none i j)
      fun side => (side.pick (baseline, current)).listing := by
  intro side scenario
  have hlisting : (side.pick (baseline, current)).listingUnder {} side config.strictReset scenario =
      (side.pick (baseline, current)).listing scenario := by
    cases side with
    | baseline => exact listingUnder_eq baseline hbaseline .baseline config.strictReset scenario
    | current => exact listingUnder_eq current hcurrent .current config.strictReset scenario
  dsimp only
  rw [← hlisting]
  have hsettled := settled_sessionsUnder hbaseline hcurrent none none config i j side scenario
  cases side with
  | baseline => exact hsettled
  | current => exact hsettled

theorem idleAt_concat (held : DispenserState) :
    IdleAt held.tables.length { held with tables := held.tables ++ [{}] } := by
  simp [IdleAt, Idle, sessionPart]

theorem openScope_dispensers (baseline current : Model) {skew skew' : Option (Kind × Int)} (bytes : Bytes)
    (state : DispenserState × DispenserState) :
    (dispensers (baseline, .skewed skew) (current, .skewed skew')).openScope bytes state =
      (.ok (sessionsAt baseline current skew skew' state.1.tables.length state.2.tables.length),
        { state.1 with tables := state.1.tables ++ [{}] }, { state.2 with tables := state.2.tables ++ [{}] }) := rfl

/-! ## Soundness and completeness -/

/-- A run of all scenarios over two well-formed models passes if and only if every signature has a blob on both sides
and the models agree. -/
theorem image_isPass_iff (baseline current : Model) (hbaseline : baseline.WellFormed) (hcurrent : current.WellFormed)
    (config : RunConfig) (name : String) (bytes : Bytes) (state : DispenserState × DispenserState) :
    ∃ (summary : ImageSummary) (state' : DispenserState × DispenserState),
      (Run.image { config with scenarios := Scenario.all } name (dispensers (baseline, {}) (current, {})) bytes).run
          state = (some summary, state') ∧
      (summary.isPass ↔ baseline.Signed ∧ current.Signed ∧ baseline.Agree current) := by
  have hsettled := settled_sessionsAt hbaseline.toCountable hcurrent.toCountable { config with scenarios := Scenario.all }
    state.1.tables.length state.2.tables.length
  obtain ⟨summary, state', hrun, -, hpass⟩ := hsettled.sessions name
    (s := ({ state.1 with tables := state.1.tables ++ [{}] }, { state.2 with tables := state.2.tables ++ [{}] }))
    ⟨idleAt_concat state.1, idleAt_concat state.2⟩
  refine ⟨summary, state', ?_, hpass.trans ?_⟩
  · exact Run.image_eq_of_openScope (openScope_dispensers baseline current bytes state) hrun
  · rw [← Model.same_listings_iff hbaseline hcurrent config.context]
    have hall : ∀ scenario : Scenario, scenario ∈ Scenario.all := by
      intro scenario
      cases scenario <;> decide
    exact ⟨fun h scenario => h scenario (hall scenario), fun h scenario _ => h scenario⟩

/-- A model and the same with the blobs of its signatures only. -/
theorem image_isPass_pair :
    let baseline := Model.synthetic 2 2 1 1
    let current := { baseline with blobs := baseline.blobs.filter (·.1 ∈ baseline.signatures) }
    baseline.WellFormed ∧ current.WellFormed ∧ baseline ≠ current ∧
    ∃ (summary : ImageSummary) (state : DispenserState × DispenserState),
      (Run.image { bufferCapacity := 3, strictReset := true, scenarios := Scenario.all } "pair"
        (dispensers (baseline, {}) (current, {})) []).run ({}, {}) = (some summary, state) ∧ summary.isPass := by
  intro baseline current
  have hbaseline : baseline.WellFormed :=
    ⟨Model.countable_of_size_lt (by decide) (by decide +kernel), by decide, by decide, by decide +kernel⟩
  have hcurrent : current.WellFormed :=
    ⟨Model.countable_of_size_lt (by decide) (by decide +kernel), by decide, by decide, by decide +kernel⟩
  obtain ⟨summary, state, hrun, hpass⟩ := image_isPass_iff baseline current hbaseline hcurrent
    { bufferCapacity := 3, strictReset := true } "pair" [] ({}, {})
  refine ⟨hbaseline, hcurrent, by decide +kernel, summary, state, hrun, hpass.mpr ⟨?_, ?_, ?_⟩⟩
  · unfold Model.Signed
    decide +kernel
  · unfold Model.Signed
    decide +kernel
  · exact ⟨rfl, rfl, rfl, rfl, rfl, rfl, by decide +kernel⟩

end Memory

end MetaParity
