import MetaParity.Proofs.Except
import MetaParity.Proofs.Simulation
import MetaParity.Run

/-! # Traced sessions

The calls that a run makes on its two sessions, in one trace that names the side of each. Noting the calls changes
nothing, and while one side lists a scenario only calls on that side are noted. -/

namespace MetaParity

variable {σ ω κ : Type}

/-! ## Tracing an import -/

namespace Import

def tracedSimulation (mark : Call → κ) (session : Import σ) : Simulation (session.tracedBy mark) session where
  Rel s t := s.1 = t
  CursorRel x y := x.1 = y.1 ∧ x.2.1 = y.2
  start _ h := ⟨rfl, h⟩
  page := by
    rintro c ⟨s, trace⟩ c' t buffer ⟨rfl, rfl⟩
    exact ⟨rfl, rfl, rfl, rfl⟩
  count := by
    rintro c ⟨s, trace⟩ c' t ⟨rfl, rfl⟩
    unfold Cursor.count
    split <;> exact ⟨rfl, rfl, rfl⟩
  reset := by
    rintro c ⟨s, trace⟩ c' t offset ⟨rfl, rfl⟩
    unfold Cursor.reset
    split <;> exact ⟨rfl, rfl, rfl⟩
  close := by
    rintro c ⟨s, trace⟩ c' t ⟨rfl, rfl⟩
    unfold Cursor.close
    split <;> rfl
  signature := by
    rintro ⟨s, trace⟩ t token rfl
    exact ⟨rfl, rfl⟩
  pageLimit := by
    rintro c ⟨s, trace⟩ c' t ⟨rfl, rfl⟩
    rfl

/-- A trace only grows, and by what the mark makes of calls. -/
def GrowsBy (mark : Call → κ) (trace : List κ) (state : σ × List κ) : Prop :=
  ∃ calls : List Call, state.2 = trace ++ calls.map mark

theorem GrowsBy.concat {mark : Call → κ} {trace : List κ} {state : σ × List κ} (h : GrowsBy mark trace state) (s : σ)
    (call : Call) : GrowsBy mark trace (s, state.2 ++ [mark call]) := by
  obtain ⟨calls, hcalls⟩ := h
  exact ⟨calls ++ [call], by simp [hcalls]⟩

def growthInvariant (mark : Call → κ) (session : Import σ) (trace : List κ) :
    Invariant (session.tracedBy mark) where
  Holds := GrowsBy mark trace
  Held _ := GrowsBy mark trace
  start _ h := h
  page _ h := h.concat _ _
  count h := by
    unfold Cursor.count
    split
    · exact h.concat _ _
    · exact h
  reset _ h := by
    unfold Cursor.reset
    split
    · exact h.concat _ _
    · exact h
  close h := by
    unfold Cursor.close
    split
    · exact h.concat _ _
    · exact h
  signature _ h := h.concat _ _

end Import

def Session.traced (side : Side) (session : Session ω) : Session (ω × List (Side × Call)) :=
  { session.toImport.tracedBy (side, ·) with release := fun state => (session.release state.1, state.2) }

def SessionPair.traced (pair : SessionPair ω) : SessionPair (ω × List (Side × Call)) :=
  ⟨pair.baseline.traced .baseline, pair.current.traced .current⟩

theorem SessionPair.traced_session (pair : SessionPair ω) (side : Side) :
    (pair.traced.session side).toImport = (pair.session side).toImport.tracedBy (side, ·) := by
  cases side <;> rfl

/-! ## One side alone never diverges -/

namespace Drive

/-- Every failure of a computation is one of the side that it drives. -/
def OneSided {α : Type} (m : Drive σ α) : Prop :=
  ∀ s failure, (m.run s).1 = .error (.failed failure) → failure.isMismatch = false

theorem oneSided_pure {α : Type} (a : α) : OneSided (pure a : Drive σ α) :=
  fun _ _ h => by cases h

theorem OneSided.bind {α β : Type} {m : Drive σ α} {f : α → Drive σ β} (hm : OneSided m)
    (hf : ∀ a, OneSided (f a)) : OneSided (m >>= f) := by
  intro s failure h
  rw [run_bind] at h
  cases hanswer : (m.run s).1 with
  | error stop =>
      rw [hanswer] at h
      obtain rfl : stop = .failed failure := by simpa using h
      exact hm s failure hanswer
  | ok a =>
      rw [hanswer] at h
      exact hf a _ failure h

theorem oneSided_ofExcept {α : Type} {step : σ → Except Failure α × σ}
    (h : ∀ s failure, (step s).1 = .error failure → failure.isMismatch = false) : OneSided (ofExcept step) := by
  intro s failure hrun
  obtain ⟨cause, hcause, heq⟩ := mapError_eq_error.mp hrun
  obtain rfl := Stop.failed.inj heq
  exact h s cause hcause

end Drive

theorem Cursor.isMismatch_of_page {session : Import σ} {c : Cursor} {buffer : Buffer} {s : σ} {failure : Failure}
    (h : (Cursor.page session c buffer s).1 = .error failure) : failure.isMismatch = false := by
  simp only [Cursor.page] at h
  split at h
  · cases h
    rfl
  · split at h
    · cases h
      rfl
    · cases h

theorem Cursor.isMismatch_of_drainFrom {session : Import σ} {fuel : Nat} {buffer : Buffer} {c : Cursor} {s : σ}
    {failure : Failure} (h : (Cursor.drainFrom session fuel buffer c s).1.stop = some (.failed failure)) :
    failure.isMismatch = false := by
  induction fuel generalizing buffer c s with
  | zero => simp [Cursor.drainFrom] at h
  | succ fuel ih =>
      have hpage := @Cursor.isMismatch_of_page σ session c buffer s
      unfold Cursor.drainFrom at h
      revert hpage h
      rcases Cursor.page session c buffer s with ⟨result, c, next, s⟩
      intro hpage h
      rcases result with other | _ | ⟨token, more⟩
      · obtain rfl : other = failure := by simpa using h
        exact hpage rfl
      · cases h
      · exact ih h

def oneSidedCorrespondence (lister : Lister σ) : Correspondence lister lister where
  Rel m _ := m.OneSided
  CursorRel m _ := Drive.OneSided m
  pure := Drive.oneSided_pure
  bind hm hf := hm.bind hf
  fail failure hfailure := fun s other h => by
    obtain rfl : failure = other := by
      change Except.error (Stop.failed failure) = _ at h
      simpa using h
    exact hfailure
  lookup token := Drive.oneSided_ofExcept fun s failure h => by
    obtain ⟨status, _, rfl⟩ := mapError_eq_error.mp h
    rfl
  onCursor query hbody := fun s failure h => hbody (⟨query, .unopened⟩, s) failure h
  cursorPure := Drive.oneSided_pure
  cursorBind hm hf := hm.bind hf
  drain := fun ⟨c, s⟩ failure h => by
    rw [CursorDrive.run_drain] at h
    unfold Drained.answer at h
    split at h
    · cases h
    · next stop hstop =>
        obtain rfl : stop = .failed failure := by simpa using h
        exact Cursor.isMismatch_of_drainFrom hstop
  count := Drive.oneSided_ofExcept fun ⟨c, s⟩ failure h => by
    simp only [Cursor.count] at h
    split at h
    · obtain ⟨status, _, rfl⟩ := mapError_eq_error.mp h
      rfl
    · cases h
  reset offset := Drive.oneSided_ofExcept fun ⟨c, s⟩ failure h => by
    simp only [Cursor.reset] at h
    split at h
    · obtain ⟨status, _, rfl⟩ := mapError_eq_error.mp h
      rfl
    · cases h

/-! ## Listing a scenario on one side -/

namespace Run

theorem list_eq (config : RunConfig) (pair : SessionPair ω) (scenario : Scenario) (side : Side) (s : ω) :
    (list config pair scenario side).run s =
      let answer := (scenario.run (Lister.of (pair.session side).toImport config.bufferCapacity) side
        config.strictReset).run s
      (match answer.1 with
        | .ok listing => some (.ok listing)
        | .error (.failed failure) => some (.error ⟨some side, failure⟩)
        | .error .exhausted => none, answer.2) := by
  unfold list
  rw [OptionT.run_mk]
  dsimp only
  rcases (scenario.run _ side config.strictReset).run s with ⟨(_ | _) | _, s⟩ <;> rfl

/-- Listing a scenario on traced sessions gives the answer of the sessions themselves and notes calls on its side. -/
theorem list_traced (config : RunConfig) (pair : SessionPair ω) (scenario : Scenario) (side : Side) (s : ω)
    (trace : List (Side × Call)) :
    ∃ calls : List Call, (list config pair.traced scenario side).run (s, trace) =
      (((list config pair scenario side).run s).1, ((list config pair scenario side).run s).2,
        trace ++ calls.map (side, ·)) := by
  rw [list_eq, list_eq, pair.traced_session]
  have hanswer := (Import.tracedSimulation (side, ·) (pair.session side).toImport).scenario config.bufferCapacity
    scenario side config.strictReset (s, trace) s rfl
  obtain ⟨calls, hcalls⟩ := (Import.growthInvariant (side, ·) (pair.session side).toImport trace).scenario
    config.bufferCapacity scenario side config.strictReset (s := (s, trace)) ⟨[], by simp⟩
  refine ⟨calls, ?_⟩
  dsimp only
  rw [hanswer.1]
  exact Prod.ext rfl (Prod.ext hanswer.2 hcalls)

theorem side_of_list (config : RunConfig) (pair : SessionPair ω) (scenario : Scenario) (side : Side) (s : ω)
    {mishap : Mishap} (h : ((list config pair scenario side).run s).1 = some (.error mishap)) :
    mishap.side = some side ∧ mishap.failure.isMismatch = false := by
  rw [list_eq] at h
  dsimp only at h
  split at h
  · cases h
  · next failure hfailure =>
      obtain rfl := Except.error.inj (Option.some.inj h)
      exact ⟨rfl, (oneSidedCorrespondence _).scenario scenario side config.strictReset s failure hfailure⟩
  · cases h

end Run

end MetaParity
