import MetaParity.Model.Synthetic
import MetaParity.Proofs.Memory.Paging
import MetaParity.Proofs.Simulation

/-! # Page sizes cannot be told apart

A scenario on an in-memory session has one answer and one end, whatever the page size. Runs with different page sizes
make different calls, but they meet again after every drain. -/

namespace MetaParity

/-! ## Computations that end alike -/

namespace Drive

variable {σ α β : Type} {P : σ → Prop}

/-- From every state with `P` both computations end by themselves, with the same answer and in the same state, which has
`P` again. -/
def Alike (P : σ → Prop) (m m' : Drive σ α) : Prop :=
  ∀ s, P s → ∃ (answer : Except Failure α) (s' : σ), P s' ∧
    m.run s = (answer.mapError .failed, s') ∧ m'.run s = (answer.mapError .failed, s')

theorem alike_pure (a : α) : Alike P (pure a) (pure a) :=
  fun s hs => ⟨.ok a, s, hs, rfl, rfl⟩

theorem alike_fail (failure : Failure) : Alike P (Drive.fail failure : Drive σ α) (Drive.fail failure) :=
  fun s hs => ⟨.error failure, s, hs, rfl, rfl⟩

theorem Alike.bind {m m' : Drive σ α} {f f' : α → Drive σ β} (hm : Alike P m m') (hf : ∀ a, Alike P (f a) (f' a)) :
    Alike P (m >>= f) (m' >>= f') := by
  intro s hs
  obtain ⟨answer, s', hs', hrun, hrun'⟩ := hm s hs
  rw [run_bind, run_bind, hrun, hrun']
  cases answer with
  | ok a => exact hf a s' hs'
  | error failure => exact ⟨.error failure, s', hs', rfl, rfl⟩

theorem alike_ofExcept {step : σ → Except Failure α × σ} (h : ∀ s, P s → P (step s).2) :
    Alike P (ofExcept step) (ofExcept step) :=
  fun s hs => ⟨(step s).1, (step s).2, h s hs, rfl, rfl⟩

theorem alike_onCursor {session : Import σ} {query : Query} {P' : Cursor × σ → Prop} {body body' : CursorDrive σ α}
    (hbody : Alike P' body body') (hstart : ∀ s, P s → P' (⟨query, .unopened⟩, s))
    (hclose : ∀ c s, P' (c, s) → P (c.close session s)) :
    Alike P (onCursor session query body) (onCursor session query body') := by
  intro s hs
  obtain ⟨answer, ⟨c, s'⟩, hs', hrun, hrun'⟩ := hbody _ (hstart s hs)
  refine ⟨answer, c.close session s', hclose c s' hs', ?_, ?_⟩
  · rw [run_onCursor, hrun]
  · rw [run_onCursor, hrun']

end Drive

namespace Memory

variable {model : Model} {faults : FaultPlan}

/-! ## One cursor -/

def Standing (model : Model) (use : Cursor × State) : Prop :=
  use.1.handle = .unopened ∨ ∃ position, OpenAt model use.1 use.2 position

theorem OpenAt.standing {cursor : Cursor} {state : State} {position : Nat} (h : OpenAt model cursor state position) :
    Standing model (cursor, state) :=
  .inr ⟨position, h⟩

theorem OpenAt.alike_drain {cursor : Cursor} {state : State} {position : Nat} (h : OpenAt model cursor state position)
    (hoverrun : faults.pageOverrun = none) (capacity capacity' : Nat) :
    ∃ (drained : Except Failure (List Token)) (use : Cursor × State), Standing model use ∧
      (CursorDrive.drain (session model faults) capacity).run (cursor, state) = (drained.mapError .failed, use) ∧
      (CursorDrive.drain (session model faults) capacity').run (cursor, state) = (drained.mapError .failed, use) := by
  have hpages : ¬Overruns model faults cursor.query := not_overruns hoverrun cursor.query
  rw [CursorDrive.run_drain, CursorDrive.run_drain, h.drain hpages, h.drain hpages]
  cases Iterator.fault? faults ⟨cursor.query, none⟩ with
  | some status => exact ⟨.error (.pagingFailed cursor.query status), _, h.standing, rfl, rfl⟩
  | none => exact ⟨.ok _, _, (h.moved _).standing, rfl, rfl⟩

theorem alike_drain (hoverrun : faults.pageOverrun = none) (capacity capacity' : Nat) :
    Drive.Alike (Standing model) (CursorDrive.drain (session model faults) capacity)
      (CursorDrive.drain (session model faults) capacity') := by
  rintro ⟨⟨query, handle⟩, state⟩ (rfl | ⟨position, hopen⟩)
  · -- Whatever the page size, the first page opens the enumeration, and from there on the drains are those of an open one.
    have hopened : OpenAt model _ _ 0 := .created query state
    have halike := hopened.alike_drain hoverrun capacity capacity'
    rwa [CursorDrive.run_drain, CursorDrive.run_drain, ← drain_unopened, ← drain_unopened] at halike
  · exact hopen.alike_drain hoverrun capacity capacity'

theorem alike_count : Drive.Alike (Standing model) (CursorDrive.count (session model faults))
    (CursorDrive.count (session model faults)) := by
  refine Drive.alike_ofExcept ?_
  rintro ⟨⟨query, handle⟩, state⟩ (rfl | ⟨position, hopen⟩)
  · exact .inl rfl
  · dsimp only
    rw [hopen.count faults]
    exact hopen.standing

theorem alike_reset (offset : UInt32) : Drive.Alike (Standing model) (CursorDrive.reset (session model faults) offset)
    (CursorDrive.reset (session model faults) offset) := by
  refine Drive.alike_ofExcept ?_
  rintro ⟨⟨query, handle⟩, state⟩ (rfl | ⟨position, hopen⟩)
  · exact .inl rfl
  · dsimp only
    rw [hopen.reset faults offset]
    cases faults.reset with
    | some status => exact hopen.standing
    | none => exact .inr ⟨offset.toNat, hopen.isOpened, (hopen.moved offset.toNat).get?_eq⟩

/-! ## Scenarios -/

/-- Listers of one session with different page sizes end alike in every use of it. -/
def capacityCorrespondence (model : Model) (faults : FaultPlan) (hoverrun : faults.pageOverrun = none)
    (capacity capacity' : Nat) :
    Correspondence (Lister.of (session model faults) capacity) (Lister.of (session model faults) capacity') where
  Rel := Drive.Alike fun _ => True
  CursorRel := Drive.Alike (Standing model)
  pure := Drive.alike_pure
  bind := Drive.Alike.bind
  fail failure _ := Drive.alike_fail failure
  lookup _ := Drive.alike_ofExcept fun _ h => h
  onCursor _ hbody := Drive.alike_onCursor hbody (fun _ _ => .inl rfl) fun _ _ _ => trivial
  cursorPure := Drive.alike_pure
  cursorBind := Drive.Alike.bind
  drain := alike_drain hoverrun _ _
  count := alike_count
  reset := alike_reset

/-- From whatever state, with whatever faults but pages that claim too much, a scenario ends with one answer and in one
state for all page sizes. -/
theorem scenario_capacity (model : Model) (faults : FaultPlan) (hoverrun : faults.pageOverrun = none)
    (scenario : Scenario) (side : Side) (strictReset : Bool) (state : State) :
    ∃ (answer : Except Failure Listing) (state' : State), ∀ capacity,
      (scenario.run (Lister.of (session model faults) capacity) side strictReset).run state =
        (answer.mapError .failed, state') := by
  have halike := fun capacity => (capacityCorrespondence model faults hoverrun 1 capacity).scenario scenario side
    strictReset state trivial
  obtain ⟨answer, state', -, hrun, -⟩ := halike 1
  refine ⟨answer, state', fun capacity => ?_⟩
  obtain ⟨answer', state'', -, hone, hcapacity⟩ := halike capacity
  rw [hcapacity, ← hone, hrun]

/-- A count that is one short has the last two of four members replayed, whatever the page size. -/
theorem scenario_capacity_skewed :
    let model := Model.synthetic 2 2 1 2
    let faults : FaultPlan := { countSkew := some (.members, -1) }
    let methods : List Token := [⟨0x06000001⟩, ⟨0x06000002⟩]
    let fields : List Token := [⟨0x04000001⟩, ⟨0x04000002⟩]
    faults.pageOverrun = none ∧ ∃ state' : State, state'.stats = { opened := 2, closed := 2, resets := 2 } ∧
      ∀ capacity, (Scenario.resetEnum.run (Lister.of (session model faults) capacity) .current false).run {} =
        (.ok (.tokens (methods ++ fields ++ fields ++ methods ++ fields)), state') := by
  intro model faults methods fields
  obtain ⟨answer, state', hrun⟩ := scenario_capacity model faults rfl .resetEnum .current false {}
  have hone := hrun 1
  have hanswer : ((Scenario.resetEnum.run (Lister.of (session model faults) 1) .current false).run {}).1.toOption =
      some (.tokens (methods ++ fields ++ fields ++ methods ++ fields)) := by
    decide +kernel
  have hstats : ((Scenario.resetEnum.run (Lister.of (session model faults) 1) .current false).run {}).2.stats =
      { opened := 2, closed := 2, resets := 2 } := by
    decide +kernel
  rw [hone] at hanswer hstats
  refine ⟨rfl, state', hstats, fun capacity => ?_⟩
  cases answer with
  | error failure => cases hanswer
  | ok listing => rw [hrun capacity, ← Option.some.inj hanswer]; rfl

end Memory

end MetaParity
