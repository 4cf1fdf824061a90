import MetaParity.Proofs.Yields

/-! # Footings

A footing tells where the cursors on an import stand. When two imports have one, and every use of a cursor gives both
sides one answer and leaves them in one place, then every scenario has one answer on both, whatever was done before. -/

namespace MetaParity

variable {ι σ τ α β : Type}

/-! ## Computations that concur -/

namespace Drive

/-- Wherever both sides stand, the computations give them one answer and leave them in one place. -/
def Concur (P : ι → σ → Prop) (Q : ι → τ → Prop) (m : Drive σ α) (m' : Drive τ α) : Prop :=
  ∀ place, ∃ answer place', Yields (P place) m answer (P place') ∧ Yields (Q place) m' answer (Q place')

variable {P : ι → σ → Prop} {Q : ι → τ → Prop}

theorem concur_pure (a : α) : Concur P Q (pure a) (pure a) :=
  fun place => ⟨.ok a, place, yields_pure a, yields_pure a⟩

theorem concur_fail (failure : Failure) : Concur P Q (Drive.fail (α := α) failure) (Drive.fail failure) :=
  fun place => ⟨.error failure, place, fun _ h => ⟨rfl, h⟩, fun _ h => ⟨rfl, h⟩⟩

theorem Concur.bind {m : Drive σ α} {m' : Drive τ α} {f : α → Drive σ β} {f' : α → Drive τ β}
    (hm : Concur P Q m m') (hf : ∀ a, Concur P Q (f a) (f' a)) : Concur P Q (m >>= f) (m' >>= f') := by
  intro place
  obtain ⟨answer, next, hleft, hright⟩ := hm place
  cases answer with
  | error failure => exact ⟨_, next, hleft.stop f, hright.stop f'⟩
  | ok a =>
      obtain ⟨answer, last, hleft', hright'⟩ := hf a next
      exact ⟨answer, last, hleft.andThen hleft', hright.andThen hright'⟩

theorem concur_ofExcept {step : σ → Except Failure α × σ} {step' : τ → Except Failure α × τ}
    (answer : ι → Except Failure α) (next : ι → ι)
    (hleft : ∀ {place s}, P place s → (step s).1 = answer place ∧ P (next place) (step s).2)
    (hright : ∀ {place t}, Q place t → (step' t).1 = answer place ∧ Q (next place) (step' t).2) :
    Concur P Q (ofExcept step) (ofExcept step') :=
  fun place => ⟨answer place, next place, yields_ofExcept fun _ h => hleft h, yields_ofExcept fun _ h => hright h⟩

end Drive

/-! ## Where cursors stand -/

/-- Where the cursors on an import may stand: a new one at the start of its query, and none once it is closed. -/
structure Footing (session : Import σ) (start : Query → ι) where
  Holds : σ → Prop
  Stands : ι → Cursor × σ → Prop
  opens : ∀ {s} query, Holds s → Stands (start query) (⟨query, .unopened⟩, s)
  close : ∀ {place c s}, Stands place (c, s) → Holds (c.close session s)

structure Lister.Concurrent (lister : Lister σ) (lister' : Lister τ) {start : Query → ι}
    (footing : Footing lister.session start) (footing' : Footing lister'.session start) : Prop where
  lookup : ∀ token, Drive.Concur (fun _ : Unit => footing.Holds) (fun _ => footing'.Holds) (lister.lookup token)
    (lister'.lookup token)
  drain : Drive.Concur footing.Stands footing'.Stands (CursorDrive.drain lister.session lister.capacity)
    (CursorDrive.drain lister'.session lister'.capacity)
  count : Drive.Concur footing.Stands footing'.Stands (CursorDrive.count lister.session)
    (CursorDrive.count lister'.session)
  reset : ∀ offset, Drive.Concur footing.Stands footing'.Stands (CursorDrive.reset lister.session offset)
    (CursorDrive.reset lister'.session offset)

namespace Lister.Concurrent

variable {start : Query → ι} {lister : Lister σ} {lister' : Lister τ} {footing : Footing lister.session start}
  {footing' : Footing lister'.session start}

def correspondence (h : lister.Concurrent lister' footing footing') : Correspondence lister lister' where
  Rel := Drive.Concur (fun _ : Unit => footing.Holds) (fun _ => footing'.Holds)
  CursorRel := Drive.Concur footing.Stands footing'.Stands
  pure := Drive.concur_pure
  bind := Drive.Concur.bind
  fail failure _ := Drive.concur_fail failure
  lookup := h.lookup
  onCursor query hbody place := by
    obtain ⟨answer, last, hleft, hright⟩ := hbody (start query)
    exact ⟨answer, place, Drive.yields_onCursor (fun _ => footing.opens query) hleft fun _ _ => footing.close,
      Drive.yields_onCursor (fun _ => footing'.opens query) hright fun _ _ => footing'.close⟩
  cursorPure := Drive.concur_pure
  cursorBind := Drive.Concur.bind
  drain := h.drain
  count := h.count
  reset := h.reset

theorem scenario (h : lister.Concurrent lister' footing footing') (scenario : Scenario) (side : Side) (strictReset : Bool) :
    ∃ answer, Drive.Yields footing.Holds (scenario.run lister side strictReset) answer footing.Holds ∧
      Drive.Yields footing'.Holds (scenario.run lister' side strictReset) answer footing'.Holds := by
  obtain ⟨answer, _, hanswer⟩ := h.correspondence.scenario scenario side strictReset ()
  exact ⟨answer, hanswer⟩

end Lister.Concurrent

end MetaParity
