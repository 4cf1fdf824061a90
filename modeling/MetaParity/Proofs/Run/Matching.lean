import MetaParity.Proofs.Run.Halting

/-! # Runs that match

Computations over different states match when from related states they give related results and end in related states.
Runs over dispensers that match record the same. -/

namespace MetaParity

variable {σ τ α α' β β' ε : Type}

/-- From related states both give related results and end in related states. -/
def Matching (R : σ → τ → Prop) (Q : α → β → Prop) (m : σ → α × σ) (m' : τ → β × τ) : Prop :=
  ∀ s t, R s t → Q (m s).1 (m' t).1 ∧ R (m s).2 (m' t).2

/-- The same error, or values that are related. -/
inductive Alike (Q : α → β → Prop) : Except ε α → Except ε β → Prop where
  | error (e : ε) : Alike Q (.error e) (.error e)
  | ok {a b} : Q a b → Alike Q (.ok a) (.ok b)

theorem Alike.refl (x : Except ε α) : Alike Eq x x := by
  cases x with
  | error e => exact .error e
  | ok a => exact .ok rfl

theorem alike_eq_iff {x y : Except ε α} : Alike Eq x y ↔ x = y := by
  constructor
  · intro h
    cases h with
    | error e => rfl
    | ok h => rw [h]
  · rintro rfl
    exact .refl x

theorem run_bindExcept (m : ExceptT ε (StateM σ) α) (f : α → ExceptT ε (StateM σ) β) (s : σ) :
    (m >>= f).run s = match (m.run s).1 with
      | .ok a => (f a).run (m.run s).2
      | .error e => (.error e, (m.run s).2) := by
  have hrun (rest : Except ε α → StateM σ (Except ε β)) : (m.run >>= rest) s = rest (m.run s).1 (m.run s).2 := rfl
  rw [ExceptT.run_bind, hrun]
  rcases m.run s with ⟨_ | a, s₁⟩ <;> rfl

namespace Matching

variable {R : σ → τ → Prop} {Q : α → α' → Prop} {Q' : β → β' → Prop}

theorem mono {P : α → α' → Prop} {m : σ → α × σ} {m' : τ → α' × τ} (h : Matching R P m m') (hP : ∀ a b, P a b → Q a b) :
    Matching R Q m m' :=
  fun s t hst => ⟨hP _ _ (h s t hst).1, (h s t hst).2⟩

theorem pureOption (a : α) : Matching R Eq (OptionT.run (pure a : OptionT (StateM σ) α))
    (OptionT.run (pure a : OptionT (StateM τ) α)) :=
  fun _ _ h => ⟨rfl, h⟩

theorem bindOption {m : OptionT (StateM σ) α} {m' : OptionT (StateM τ) α} {f : α → OptionT (StateM σ) β}
    {f' : α → OptionT (StateM τ) β} (hm : Matching R Eq m.run m'.run)
    (hf : ∀ a, Matching R Eq (f a).run (f' a).run) : Matching R Eq (m >>= f).run (m' >>= f').run := by
  intro s t h
  obtain ⟨hanswer, hstates⟩ := hm s t h
  rw [Run.run_bind, Run.run_bind]
  revert hanswer hstates
  rcases m.run s with ⟨answer, s₁⟩
  rcases m'.run t with ⟨answer', t₁⟩
  rintro rfl hstates
  cases answer with
  | none => exact ⟨rfl, hstates⟩
  | some a => exact hf a _ _ hstates

theorem pureExcept {a : α} {a' : α'} (h : Q a a') : Matching R (Alike Q) (ExceptT.run (pure a : ExceptT ε (StateM σ) α))
    (ExceptT.run (pure a' : ExceptT ε (StateM τ) α')) :=
  fun _ _ hst => ⟨.ok h, hst⟩

theorem throwExcept (e : ε) : Matching R (Alike Q) (ExceptT.run (throw e : ExceptT ε (StateM σ) α))
    (ExceptT.run (throw e : ExceptT ε (StateM τ) α')) :=
  fun _ _ hst => ⟨.error e, hst⟩

theorem bindExcept {m : ExceptT ε (StateM σ) α} {m' : ExceptT ε (StateM τ) α'} {f : α → ExceptT ε (StateM σ) β}
    {f' : α' → ExceptT ε (StateM τ) β'} (hm : Matching R (Alike Q) m.run m'.run)
    (hf : ∀ a a', Q a a' → Matching R (Alike Q') (f a).run (f' a').run) :
    Matching R (Alike Q') (m >>= f).run (m' >>= f').run := by
  intro s t h
  obtain ⟨hanswer, hstates⟩ := hm s t h
  rw [run_bindExcept, run_bindExcept]
  revert hanswer hstates
  rcases m.run s with ⟨answer, s₁⟩
  rcases m'.run t with ⟨answer', t₁⟩
  intro hanswer hstates
  cases hanswer with
  | error e => exact ⟨.error e, hstates⟩
  | ok ha => exact hf _ _ ha _ _ hstates

end Matching

/-! ## Imports, sessions and dispensers -/

structure Import.Matches (R : σ → τ → Prop) (session : Import σ) (session' : Import τ) : Prop where
  page : ∀ handle query capacity,
    Matching R Eq (session.page handle query capacity) (session'.page handle query capacity)
  count : ∀ handle, Matching R Eq (session.count handle) (session'.count handle)
  reset : ∀ handle position, Matching R Eq (session.reset handle position) (session'.reset handle position)
  close : ∀ handle s t, R s t → R (session.close handle s) (session'.close handle t)
  signature : ∀ token, Matching R Eq (session.signature token) (session'.signature token)
  pageLimit : ∀ s t, R s t → session.pageLimit s = session'.pageLimit t

def Import.Matches.simulation {R : σ → τ → Prop} {session : Import σ} {session' : Import τ}
    (h : session.Matches R session') : Simulation session session' where
  Rel := R
  CursorRel x y := x.1 = y.1 ∧ R x.2 y.2
  start _ hst := ⟨rfl, hst⟩
  page := by
    rintro cursor s _ t buffer ⟨rfl, hst⟩
    have hpage := h.page cursor.handle cursor.query buffer.capacity s t hst
    unfold Cursor.page
    revert hpage
    rcases session.page cursor.handle cursor.query buffer.capacity s with ⟨reply, s₁⟩
    rcases session'.page cursor.handle cursor.query buffer.capacity t with ⟨reply', t₁⟩
    rintro ⟨rfl, hst⟩
    exact ⟨rfl, rfl, rfl, hst⟩
  count := by
    rintro cursor s _ t ⟨rfl, hst⟩
    unfold Cursor.count
    split
    · obtain ⟨hanswer, hst⟩ := h.count cursor.handle s t hst
      exact ⟨congrArg (Except.mapError _) hanswer, rfl, hst⟩
    · exact ⟨rfl, rfl, hst⟩
  reset := by
    rintro cursor s _ t offset ⟨rfl, hst⟩
    unfold Cursor.reset
    split
    · obtain ⟨hanswer, hst⟩ := h.reset cursor.handle offset s t hst
      exact ⟨congrArg (Except.mapError _) hanswer, rfl, hst⟩
    · exact ⟨rfl, rfl, hst⟩
  close := by
    rintro cursor s _ t ⟨rfl, hst⟩
    unfold Cursor.close
    split
    · exact h.close cursor.handle s t hst
    · exact hst
  signature token hst := h.signature token _ _ hst
  pageLimit := by
    rintro cursor s _ t ⟨rfl, hst⟩
    exact h.pageLimit s t hst

def Import.ListsAlike (R : σ → τ → Prop) (session : Import σ) (session' : Import τ) : Prop :=
  ∀ capacity (scenario : Scenario) side strictReset, Drive.Matches R
    (scenario.run (Lister.of session capacity) side strictReset)
    (scenario.run (Lister.of session' capacity) side strictReset)

theorem Import.Matches.listsAlike {R : σ → τ → Prop} {session : Import σ} {session' : Import τ}
    (h : session.Matches R session') : session.ListsAlike R session' :=
  h.simulation.scenario

structure Session.Matches (R : σ → τ → Prop) (session : Session σ) (session' : Session τ) : Prop where
  lists : session.toImport.ListsAlike R session'.toImport
  release : ∀ s t, R s t → R (session.release s) (session'.release t)

def SessionPair.Matches (R : σ → τ → Prop) (pair : SessionPair σ) (pair' : SessionPair τ) : Prop :=
  ∀ side, (pair.session side).Matches R (pair'.session side)

def Dispenser.Matches (R : σ → τ → Prop) (dispenser : Dispenser σ) (dispenser' : Dispenser τ) : Prop :=
  ∀ image, Matching R (Alike (Session.Matches R)) (dispenser.openScope image) (dispenser'.openScope image)

namespace DispenserPair

variable {R : σ → τ → Prop}

def Matches (R : σ → τ → Prop) (dispensers : DispenserPair σ) (dispensers' : DispenserPair τ) : Prop :=
  ∀ side, (dispensers.dispenser side).Matches R (dispensers'.dispenser side)

theorem Matches.openScope {dispensers : DispenserPair σ} {dispensers' : DispenserPair τ}
    (h : dispensers.Matches R dispensers') (image : Bytes) :
    Matching R (Alike (SessionPair.Matches R)) (dispensers.openScope image) (dispensers'.openScope image) := by
  intro s t hst
  have hbaseline := h .baseline image s t hst
  unfold DispenserPair.openScope
  revert hbaseline
  simp only [dispenser]
  rcases dispensers.baseline.openScope image s with ⟨answer, s₁⟩
  rcases dispensers'.baseline.openScope image t with ⟨answer', t₁⟩
  rintro ⟨hanswer, hst⟩
  cases hanswer with
  | error failure => exact ⟨.error failure, hst⟩
  | ok hopened =>
      have hcurrent := h .current image s₁ t₁ hst
      revert hcurrent
      simp only [dispenser]
      rcases dispensers.current.openScope image s₁ with ⟨answer, s₂⟩
      rcases dispensers'.current.openScope image t₁ with ⟨answer', t₂⟩
      rintro ⟨hanswer, hst⟩
      cases hanswer with
      | error failure => exact ⟨.error failure, hopened.release _ _ hst⟩
      | ok hopened' =>
          refine ⟨.ok fun side => ?_, hst⟩
          cases side with
          | baseline => exact hopened
          | current => exact hopened'

end DispenserPair

/-! ## Runs -/

namespace Run

variable {R : σ → τ → Prop} {pair : SessionPair σ} {pair' : SessionPair τ} {dispensers : DispenserPair σ}
  {dispensers' : DispenserPair τ}

section

variable (h : ∀ side, (pair.session side).toImport.ListsAlike R (pair'.session side).toImport)
include h

theorem matching_list (config : RunConfig) (scenario : Scenario) (side : Side) :
    Matching R Eq (list config pair scenario side).run (list config pair' scenario side).run := by
  intro s t hst
  obtain ⟨hanswer, hst⟩ := h side config.bufferCapacity scenario side config.strictReset s t hst
  rw [list_eq, list_eq]
  dsimp only
  rw [hanswer]
  exact ⟨rfl, hst⟩

theorem matching_execute (config : RunConfig) (scenario : Scenario) :
    Matching R Eq (execute config pair scenario).run (execute config pair' scenario).run := by
  refine .bindOption (matching_list h config scenario .baseline) fun answer => ?_
  cases answer with
  | error mishap => exact .pureOption _
  | ok baseline =>
      refine .bindOption (matching_list h config scenario .current) fun answer => ?_
      cases answer with
      | error mishap => exact .pureOption _
      | ok current =>
          dsimp only
          split <;> exact .pureOption _

theorem matching_records (config : RunConfig) (scenarios : List Scenario) :
    Matching R Eq (records config pair scenarios).run (records config pair' scenarios).run := by
  induction scenarios with
  | nil => exact .pureOption []
  | cons scenario scenarios ih =>
      refine .bindOption (matching_execute h config scenario) fun answer => ?_
      cases answer with
      | error mishap => exact .pureOption _
      | ok items => exact .bindOption ih fun later => .pureOption _

theorem matching_sessions (config : RunConfig) (image : String) :
    Matching R Eq (sessions config image pair).run (sessions config image pair').run := by
  unfold sessions
  rw [map_eq_pure_bind, map_eq_pure_bind]
  exact .bindOption (matching_records h config config.scenarios) fun records => .pureOption _

end

/-- Images are verified alike: opened, driven and given back. -/
theorem matching_image (h : dispensers.Matches R dispensers') (config : RunConfig) (name : String) (bytes : Bytes) :
    Matching R Eq (image config name dispensers bytes).run (image config name dispensers' bytes).run := by
  intro s t hst
  have hopen := h.openScope bytes s t hst
  unfold image
  rw [OptionT.run_mk, OptionT.run_mk]
  revert hopen
  rcases dispensers.openScope bytes s with ⟨answer, s₁⟩
  rcases dispensers'.openScope bytes t with ⟨answer', t₁⟩
  rintro ⟨hanswer, hst⟩
  cases hanswer with
  | error failure => exact ⟨rfl, hst⟩
  | ok hpair =>
      obtain ⟨hsummary, hst⟩ := matching_sessions (fun side => (hpair side).lists) config name s₁ t₁ hst
      exact ⟨hsummary, (hpair .current).release _ _ ((hpair .baseline).release _ _ hst)⟩

end Run

end MetaParity
