import MetaParity.Proofs.Correspondence

/-! # Simulations between imports

Two imports simulate each other when cursors on them answer alike and related states stay related. Every driver then
answers alike on both. With one import on either side this is an invariant of driving it. -/

namespace MetaParity

variable {σ τ α β : Type}

/-! ## Computations that answer alike -/

namespace Drive

/-- From related states both computations give the same answer and end in related states. -/
def Matches (R : σ → τ → Prop) (m : Drive σ α) (m' : Drive τ α) : Prop :=
  ∀ s t, R s t → (m.run s).1 = (m'.run t).1 ∧ R (m.run s).2 (m'.run t).2

variable {R : σ → τ → Prop}

theorem matches_pure (a : α) : Matches R (pure a) (pure a) :=
  fun _ _ h => ⟨rfl, h⟩

theorem matches_fail (failure : Failure) : Matches R (Drive.fail (α := α) failure) (Drive.fail failure) :=
  fun _ _ h => ⟨rfl, h⟩

theorem run_bind (m : Drive σ α) (f : α → Drive σ β) (s : σ) :
    (m >>= f).run s = match (m.run s).1 with
      | .ok a => (f a).run (m.run s).2
      | .error stop => (.error stop, (m.run s).2) := by
  change (match m.run s with | (answer, s) => (ExceptT.bindCont f answer : StateM σ _) s) = _
  rcases m.run s with ⟨_ | a, s⟩ <;> rfl

theorem run_bind_of_ok {m : Drive σ α} {s s' : σ} {a : α} (h : m.run s = (.ok a, s')) (f : α → Drive σ β) :
    (m >>= f).run s = (f a).run s' := by
  rw [run_bind, h]

theorem run_bind_of_error {m : Drive σ α} {s s' : σ} {stop : Stop} (h : m.run s = (.error stop, s'))
    (f : α → Drive σ β) : (m >>= f).run s = (.error stop, s') := by
  rw [run_bind, h]

theorem run_onCursor (session : Import σ) (query : Query) (body : CursorDrive σ α) (s : σ) :
    (onCursor session query body).run s = ((body.run (⟨query, .unopened⟩, s)).1,
      (body.run (⟨query, .unopened⟩, s)).2.1.close session (body.run (⟨query, .unopened⟩, s)).2.2) := rfl

theorem run_onCursor_of_run {session : Import σ} {query : Query} {body : CursorDrive σ α} {s s' : σ} {cursor : Cursor}
    {answer : Except Stop α} (h : body.run (⟨query, .unopened⟩, s) = (answer, cursor, s')) :
    (onCursor session query body).run s = (answer, cursor.close session s') := by
  rw [run_onCursor, h]

theorem Matches.bind {m : Drive σ α} {m' : Drive τ α} {f : α → Drive σ β} {f' : α → Drive τ β}
    (hm : Matches R m m') (hf : ∀ a, Matches R (f a) (f' a)) : Matches R (m >>= f) (m' >>= f') := by
  intro s t h
  obtain ⟨hanswer, hstates⟩ := hm s t h
  rw [run_bind, run_bind, ← hanswer]
  cases (m.run s).1 with
  | error stop => exact ⟨rfl, hstates⟩
  | ok a => exact hf a _ _ hstates

theorem matches_ofExcept {step : σ → Except Failure α × σ} {step' : τ → Except Failure α × τ}
    (h : ∀ s t, R s t → (step s).1 = (step' t).1 ∧ R (step s).2 (step' t).2) :
    Matches R (ofExcept step) (ofExcept step') := by
  intro s t hst
  obtain ⟨hanswer, hstates⟩ := h s t hst
  exact ⟨congrArg (Except.mapError Stop.failed) hanswer, hstates⟩

end Drive

theorem CursorDrive.run_drain (session : Import σ) (capacity : Nat) (cursor : Cursor) (s : σ) :
    (CursorDrive.drain session capacity).run (cursor, s) =
      ((cursor.drain session capacity s).1.answer, (cursor.drain session capacity s).2) := rfl

theorem CursorDrive.run_count (session : Import σ) (cursor : Cursor) (s : σ) :
    (CursorDrive.count session).run (cursor, s) =
      ((cursor.count session s).1.mapError .failed, cursor, (cursor.count session s).2) := rfl

/-! ## Simulations -/

/-- Relations between the states of two imports, without and with a cursor in use, that every use of a cursor keeps
while both sides answer alike. -/
structure Simulation (session : Import σ) (session' : Import τ) where
  Rel : σ → τ → Prop
  CursorRel : Cursor × σ → Cursor × τ → Prop
  start : ∀ {s t} query, Rel s t → CursorRel (⟨query, .unopened⟩, s) (⟨query, .unopened⟩, t)
  page : ∀ {c s c' t} buffer, CursorRel (c, s) (c', t) →
    (Cursor.page session c buffer s).1 = (Cursor.page session' c' buffer t).1 ∧
    (Cursor.page session c buffer s).2.2.1 = (Cursor.page session' c' buffer t).2.2.1 ∧
    CursorRel ((Cursor.page session c buffer s).2.1, (Cursor.page session c buffer s).2.2.2)
      ((Cursor.page session' c' buffer t).2.1, (Cursor.page session' c' buffer t).2.2.2)
  count : ∀ {c s c' t}, CursorRel (c, s) (c', t) →
    (c.count session s).1 = (c'.count session' t).1 ∧
    CursorRel (c, (c.count session s).2) (c', (c'.count session' t).2)
  reset : ∀ {c s c' t} offset, CursorRel (c, s) (c', t) →
    (c.reset session offset s).1 = (c'.reset session' offset t).1 ∧
    CursorRel (c, (c.reset session offset s).2) (c', (c'.reset session' offset t).2)
  close : ∀ {c s c' t}, CursorRel (c, s) (c', t) → Rel (c.close session s) (c'.close session' t)
  signature : ∀ {s t} token, Rel s t →
    (session.signature token s).1 = (session'.signature token t).1 ∧
    Rel (session.signature token s).2 (session'.signature token t).2
  pageLimit : ∀ {c s c' t}, CursorRel (c, s) (c', t) → session.pageLimit s = session'.pageLimit t

namespace Simulation

variable {session : Import σ} {session' : Import τ} (sim : Simulation session session')

theorem drainFrom (fuel : Nat) (buffer : Buffer) {c : Cursor} {s : σ} {c' : Cursor} {t : τ}
    (h : sim.CursorRel (c, s) (c', t)) :
    (Cursor.drainFrom session fuel buffer c s).1 = (Cursor.drainFrom session' fuel buffer c' t).1 ∧
    sim.CursorRel (Cursor.drainFrom session fuel buffer c s).2 (Cursor.drainFrom session' fuel buffer c' t).2 := by
  induction fuel generalizing buffer c s c' t with
  | zero => exact ⟨rfl, h⟩
  | succ fuel ih =>
      have hpage := sim.page buffer h
      unfold Cursor.drainFrom
      revert hpage
      rcases Cursor.page session c buffer s with ⟨result, c, next, s⟩
      rcases Cursor.page session' c' buffer t with ⟨result', c', next', t⟩
      rintro ⟨rfl, rfl, hrel⟩
      rcases result with failure | _ | ⟨token, more⟩
      · exact ⟨rfl, hrel⟩
      · exact ⟨rfl, hrel⟩
      · obtain ⟨hrest, hrel⟩ := ih next hrel
        refine ⟨?_, hrel⟩
        simp only [hrest]

theorem drain (capacity : Nat) :
    Drive.Matches sim.CursorRel (CursorDrive.drain session capacity) (CursorDrive.drain session' capacity) := by
  rintro ⟨c, s⟩ ⟨c', t⟩ h
  obtain ⟨hdrained, hrel⟩ := sim.drainFrom (session.pageLimit s) (.empty (max capacity 1)) h
  rw [CursorDrive.run_drain, CursorDrive.run_drain]
  unfold Cursor.drain
  rw [← sim.pageLimit h]
  exact ⟨congrArg Drained.answer hdrained, hrel⟩

def correspondence (capacity : Nat) : Correspondence (Lister.of session capacity) (Lister.of session' capacity) where
  Rel := Drive.Matches sim.Rel
  CursorRel := Drive.Matches sim.CursorRel
  pure := Drive.matches_pure
  bind := Drive.Matches.bind
  fail failure _ := Drive.matches_fail failure
  lookup token := Drive.matches_ofExcept fun s t h => by
    obtain ⟨hanswer, hstates⟩ := sim.signature token h
    exact ⟨congrArg (Except.mapError (Failure.lookupFailed token)) hanswer, hstates⟩
  onCursor query hbody := fun s t h => by
    obtain ⟨hanswer, hrel⟩ := hbody _ _ (sim.start query h)
    exact ⟨hanswer, sim.close hrel⟩
  cursorPure := Drive.matches_pure
  cursorBind := Drive.Matches.bind
  drain := sim.drain _
  count := Drive.matches_ofExcept fun _ _ h => sim.count h
  reset offset := Drive.matches_ofExcept fun _ _ h => sim.reset offset h

theorem scenario (capacity : Nat) (scenario : Scenario) (side : Side) (strictReset : Bool) :
    Drive.Matches sim.Rel (scenario.run (Lister.of session capacity) side strictReset)
      (scenario.run (Lister.of session' capacity) side strictReset) :=
  (sim.correspondence capacity).scenario scenario side strictReset

theorem compose (capacity : Nat) (top : Query) (walks : List Walk) :
    Drive.Matches sim.Rel ((Lister.of session capacity).compose top walks)
      ((Lister.of session' capacity).compose top walks) :=
  (sim.correspondence capacity).compose top walks

end Simulation

/-! ## Invariants -/

/-- Properties of an import's states, without and with a cursor in use, that every use of a cursor keeps. -/
structure Invariant (session : Import σ) where
  Holds : σ → Prop
  Held : Cursor → σ → Prop
  start : ∀ {s} query, Holds s → Held ⟨query, .unopened⟩ s
  page : ∀ {c s} buffer, Held c s →
    Held (Cursor.page session c buffer s).2.1 (Cursor.page session c buffer s).2.2.2
  count : ∀ {c s}, Held c s → Held c (c.count session s).2
  reset : ∀ {c s} offset, Held c s → Held c (c.reset session offset s).2
  close : ∀ {c s}, Held c s → Holds (c.close session s)
  signature : ∀ {s} token, Holds s → Holds (session.signature token s).2

namespace Invariant

variable {session : Import σ} (inv : Invariant session)

def simulation : Simulation session session where
  Rel s t := s = t ∧ inv.Holds s
  CursorRel x y := x = y ∧ inv.Held x.1 x.2
  start query := fun ⟨hst, h⟩ => ⟨by rw [hst], inv.start query h⟩
  page buffer := fun ⟨hxy, h⟩ => by
    obtain ⟨rfl, rfl⟩ := Prod.mk.inj hxy
    exact ⟨rfl, rfl, rfl, inv.page buffer h⟩
  count := fun ⟨hxy, h⟩ => by
    obtain ⟨rfl, rfl⟩ := Prod.mk.inj hxy
    exact ⟨rfl, rfl, inv.count h⟩
  reset offset := fun ⟨hxy, h⟩ => by
    obtain ⟨rfl, rfl⟩ := Prod.mk.inj hxy
    exact ⟨rfl, rfl, inv.reset offset h⟩
  close := fun ⟨hxy, h⟩ => by
    obtain ⟨rfl, rfl⟩ := Prod.mk.inj hxy
    exact ⟨rfl, inv.close h⟩
  signature token := fun ⟨hst, h⟩ => by
    subst hst
    exact ⟨rfl, rfl, inv.signature token h⟩
  pageLimit := fun ⟨hxy, _⟩ => by rw [(Prod.mk.inj hxy).2]

theorem scenario (capacity : Nat) (scenario : Scenario) (side : Side) (strictReset : Bool) {s : σ} (h : inv.Holds s) :
    inv.Holds ((scenario.run (Lister.of session capacity) side strictReset).run s).2 :=
  (inv.simulation.scenario capacity scenario side strictReset s s ⟨rfl, h⟩).2.2

theorem compose (capacity : Nat) (top : Query) (walks : List Walk) {s : σ} (h : inv.Holds s) :
    inv.Holds (((Lister.of session capacity).compose top walks).run s).2 :=
  (inv.simulation.compose capacity top walks s s ⟨rfl, h⟩).2.2

end Invariant

end MetaParity
