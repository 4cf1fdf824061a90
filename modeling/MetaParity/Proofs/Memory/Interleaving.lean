import MetaParity.Model.Synthetic
import MetaParity.Proofs.Memory.Coherence

/-! # Cursors are independent

Uses of any number of cursors over one in-memory session, in any order. Each cursor answers as its own iterator does on
its own part of the script. -/

namespace MetaParity.Memory

/-! ## Scripts -/

inductive Use where
  | page (buffer : Buffer)
  | drain (capacity : Nat)
  | count
  | reset (offset : UInt32)
  | close

inductive Answer where
  | page (answer : Except Failure (List Token))
  | drain (drained : Drained)
  | count (answer : Except Failure UInt32)
  | reset (answer : Except Failure Unit)
  | closed

/-- Uses a cursor. A closed one is as good as a new one. -/
def Use.run {σ : Type} (session : Import σ) (use : Use) (cursor : Cursor) (state : σ) : Answer × Cursor × σ :=
  match use with
  | page buffer =>
    let (answer, cursor, _, state) := cursor.page session buffer state
    (.page answer, cursor, state)
  | drain capacity =>
    let (drained, cursor, state) := cursor.drain session capacity state
    (.drain drained, cursor, state)
  | count =>
    let (answer, state) := cursor.count session state
    (.count answer, cursor, state)
  | reset offset =>
    let (answer, state) := cursor.reset session offset state
    (.reset answer, cursor, state)
  | close => (.closed, { cursor with handle := .unopened }, cursor.close session state)

def Use.iterate (model : Model) (faults : FaultPlan) (use : Use) (iterator : Iterator) : Answer × Iterator :=
  match use with
  | page buffer => (iterator.page model faults buffer.capacity).map .page id
  | drain _ => (iterator.drain model faults).map .drain id
  | count => (.count (.ok (iterator.count model faults)), iterator)
  | reset offset => (iterator.reset faults offset).map .reset id
  | close => (.closed, iterator.close)

def Iterator.run (model : Model) (faults : FaultPlan) : List Use → Iterator → List Answer × Iterator
  | [], iterator => ([], iterator)
  | use :: script, iterator =>
    let (answer, iterator) := use.iterate model faults iterator
    let (answers, iterator) := run model faults script iterator
    (answer :: answers, iterator)

variable {ι : Type} [DecidableEq ι]

def interleave {σ : Type} (session : Import σ) :
    List (ι × Use) → (ι → Cursor) → σ → List (ι × Answer) × (ι → Cursor) × σ
  | [], cursors, state => ([], cursors, state)
  | (i, use) :: script, cursors, state =>
    let (answer, cursor, state) := use.run session (cursors i) state
    let (answers, cursors, state) := interleave session script (Function.update cursors i cursor) state
    ((i, answer) :: answers, cursors, state)

/-- The part of a script, or of its answers, that belongs to one cursor. -/
def partOf {α : Type} (i : ι) (items : List (ι × α)) : List α :=
  (items.filter (·.1 = i)).map (·.2)

theorem partOf_cons_self {α : Type} (i : ι) (a : α) (items : List (ι × α)) :
    partOf i ((i, a) :: items) = a :: partOf i items := by
  simp [partOf]

theorem partOf_cons_of_ne {α : Type} {i j : ι} (h : j ≠ i) (a : α) (items : List (ι × α)) :
    partOf i ((j, a) :: items) = partOf i items := by
  simp [partOf, h]

/-! ## Independence -/

namespace Coherent

variable {model : Model} {faults : FaultPlan} {cursors : ι → Cursor} {iterators : ι → Iterator} {start : Stats}
  {state : State}

theorem use (h : Coherent model cursors iterators start state) (hoverrun : faults.pageOverrun = none) (i : ι)
    (use : Use) :
    ∃ cursor state', use.run (session model faults) (cursors i) state =
        ((use.iterate model faults (iterators i)).1, cursor, state') ∧
      Coherent model (Function.update cursors i cursor)
        (Function.update iterators i (use.iterate model faults (iterators i)).2) start state' := by
  cases use with
  | page buffer =>
      obtain ⟨cursor, next, state', hpage, hcoherent⟩ := h.page hoverrun i buffer
      exact ⟨cursor, state', by rw [Use.run, hpage]; rfl, hcoherent⟩
  | drain capacity =>
      obtain ⟨cursor, state', hdrain, hcoherent⟩ := h.drain hoverrun i capacity
      exact ⟨cursor, state', by rw [Use.run, hdrain]; rfl, hcoherent⟩
  | count =>
      refine ⟨cursors i, state, by rw [Use.run, h.count faults i]; rfl, ?_⟩
      simpa [Use.iterate] using h
  | reset offset =>
      obtain ⟨state', hreset, hcoherent⟩ := h.reset faults i offset
      refine ⟨cursors i, state', by rw [Use.run, hreset]; rfl, ?_⟩
      rwa [Function.update_eq_self]
  | close => exact ⟨_, _, rfl, h.close faults i⟩

theorem interleave (h : Coherent model cursors iterators start state) (hoverrun : faults.pageOverrun = none)
    (script : List (ι × Use)) :
    ∃ answers cursors' state', Memory.interleave (session model faults) script cursors state =
        (answers, cursors', state') ∧
      (∀ i, partOf i answers = ((iterators i).run model faults (partOf i script)).1) ∧
      Coherent model cursors' (fun i => ((iterators i).run model faults (partOf i script)).2) start state' := by
  induction script generalizing cursors iterators state with
  | nil => exact ⟨[], cursors, state, rfl, fun _ => rfl, h⟩
  | cons step script ih =>
      obtain ⟨i, use⟩ := step
      obtain ⟨cursor, state', hrun, hcoherent⟩ := h.use hoverrun i use
      obtain ⟨answers, cursors', state'', hrest, hanswers, hcoherent⟩ := ih hcoherent
      have hiterators : ∀ j, ((iterators j).run model faults (partOf j ((i, use) :: script))).2 =
          ((Function.update iterators i (use.iterate model faults (iterators i)).2 j).run model faults
            (partOf j script)).2 := by
        intro j
        by_cases hj : i = j
        · subst hj
          rw [partOf_cons_self, Function.update_self]
          rfl
        · rw [partOf_cons_of_ne hj, Function.update_of_ne (Ne.symm hj)]
      refine ⟨(i, (use.iterate model faults (iterators i)).1) :: answers, cursors', state'', ?_, fun j => ?_, ?_⟩
      · rw [Memory.interleave, hrun]
        dsimp only
        rw [hrest]
      · by_cases hj : i = j
        · subst hj
          rw [partOf_cons_self, partOf_cons_self, hanswers, Function.update_self]
          rfl
        · rw [partOf_cons_of_ne hj, partOf_cons_of_ne hj, hanswers, Function.update_of_ne (Ne.symm hj)]
      · rwa [funext hiterators]

end Coherent

/-- New cursors of any queries over one session, however their uses are interleaved, each answer as an iterator of their
own. Once all are closed, so is each handle that was opened. -/
theorem interleaved_cursors (model : Model) (faults : FaultPlan) (queries : ι → Query) (script : List (ι × Use))
    (hoverrun : faults.pageOverrun = none) :
    ∃ (answers : List (ι × Answer)) (cursors : ι → Cursor) (state : State),
      Memory.interleave (session model faults) script (fun i => ⟨queries i, .unopened⟩) {} =
        (answers, cursors, state) ∧
      (∀ i, partOf i answers = (Iterator.run model faults (partOf i script) ⟨queries i, none⟩).1) ∧
      (∀ i, (cursors i).isOpened =
        (Iterator.run model faults (partOf i script) ⟨queries i, none⟩).2.position.isSome) ∧
      state.stats.doubleCloses = 0 ∧ state.stats.unknownHandleCalls = 0 ∧
      ((∀ i, (cursors i).isOpened = false) → state.table.size = 0 ∧ state.stats.opened = state.stats.closed) := by
  have hfresh : Coherent model (fun i => ⟨queries i, .unopened⟩) (fun i => ⟨queries i, none⟩) {} {} :=
    Coherent.fresh queries {} rfl
  obtain ⟨answers, cursors, state, hrun, hanswers, hcoherent⟩ := hfresh.interleave hoverrun script
  refine ⟨answers, cursors, state, hrun, hanswers, hcoherent.isOpened_iff, hcoherent.doubleCloses_eq,
    hcoherent.unknownHandleCalls_eq, fun hclosed => ?_⟩
  have hnone : ∀ i, (Iterator.run model faults (partOf i script) ⟨queries i, none⟩).2.position = none := fun i => by
    rw [← Option.not_isSome_iff_eq_none, ← hcoherent.isOpened_iff, hclosed i]
    decide
  obtain ⟨hempty, hstats⟩ := hcoherent.all_closed hnone
  have hzero : ({} : Stats).opened = 0 ∧ ({} : Stats).closed = 0 := ⟨rfl, rfl⟩
  refine ⟨by simp [HandleTable.size, hempty], ?_⟩
  omega

/-- Two cursors: one is moved beyond its end between the pages of the other, whose pages fail. -/
theorem interleaved_cursors_pair :
    let faults : FaultPlan := { paging := some (.typeRefs, .fail), countSkew := some (.typeDefs, -9) }
    let script : List (Bool × Use) := [(true, .page ⟨1, []⟩), (false, .drain 2), (true, .drain 0), (true, .reset 7),
      (true, .count), (false, .page ⟨0, []⟩), (true, .page ⟨4, []⟩), (false, .close), (true, .close)]
    let queries : Bool → Query := fun i => if i then .typeDefs else .typeRefs
    faults.pageOverrun = none ∧
    ∃ (answers : List (Bool × Answer)) (cursors : Bool → Cursor) (state : State),
      Memory.interleave (session (Model.synthetic 3 0 0 0) faults) script (fun i => ⟨queries i, .unopened⟩) {} =
        (answers, cursors, state) ∧
      partOf true answers = [.page (.ok [⟨0x02000002⟩]), .drain ⟨[⟨0x02000003⟩, ⟨0x02000004⟩], none⟩,
        .reset (.ok ()), .count (.ok 0), .page (.ok []), .closed] ∧
      partOf false answers = [.drain ⟨[], some (.failed (.pagingFailed .typeRefs .fail))⟩,
        .page (.error (.pagingFailed .typeRefs .fail)), .closed] ∧
      (∀ i, (cursors i).isOpened = false) ∧ state.stats.opened = state.stats.closed := by
  intro faults script queries
  obtain ⟨answers, cursors, state, hrun, hanswers, hopened, -, -, hclosed⟩ :=
    interleaved_cursors (Model.synthetic 3 0 0 0) faults queries script rfl
  have hnone : ∀ i, (cursors i).isOpened = false := by
    intro i
    rw [hopened]
    cases i <;> rfl
  exact ⟨rfl, answers, cursors, state, hrun, (hanswers true).trans rfl, (hanswers false).trans rfl, hnone,
    (hclosed hnone).2⟩

end MetaParity.Memory
