import MetaParity.Proofs.Memory.Paging
import MetaParity.Proofs.Simulation

/-! # Single enumerations

Draining one enumeration, with or without a check of its reported count: what it answers under faults, and the one
handle that it opens and closes. -/

namespace MetaParity

structure Visit where
  query : Query
  counted : Bool

def Lister.enumerate {σ : Type} (lister : Lister σ) (visit : Visit) : Drive σ (List Token) :=
  if visit.counted then lister.collect visit.query else lister.drain visit.query

namespace Visit

variable (model : Model) (faults : Memory.FaultPlan)

/-- How an enumeration fails: in its first page, or in the check of its count. -/
def failure? (visit : Visit) : Option Failure :=
  match Memory.Iterator.fault? faults ⟨visit.query, none⟩ with
  | some status => some (.pagingFailed visit.query status)
  | none =>
    let produced := (model.items visit.query).length
    let reported := (Memory.clampCount (produced + Memory.Iterator.skew faults ⟨visit.query, none⟩)).toNat
    if visit.counted ∧ reported ≠ produced then some (.countMismatch visit.query reported produced) else none

def answer (visit : Visit) : Except Failure (List Token) :=
  match visit.failure? model faults with
  | some failure => .error failure
  | none => .ok (model.items visit.query)

variable {model : Model} {faults : Memory.FaultPlan} {visit : Visit}

theorem answer_eq_error_iff {failure : Failure} :
    visit.answer model faults = .error failure ↔ visit.failure? model faults = some failure := by
  unfold answer
  cases visit.failure? model faults <;> simp

theorem answer_eq_ok_iff {tokens : List Token} :
    visit.answer model faults = .ok tokens ↔ visit.failure? model faults = none ∧ model.items visit.query = tokens := by
  unfold answer
  cases visit.failure? model faults <;> simp

theorem failure?_eq_none (hfault : Memory.Iterator.fault? faults ⟨visit.query, none⟩ = none)
    (hskew : Memory.Iterator.skew faults ⟨visit.query, none⟩ = 0)
    (hlength : visit.counted → (model.items visit.query).length < 0x100000000) :
    visit.failure? model faults = none := by
  have hreported : visit.counted →
      (Memory.clampCount ((model.items visit.query).length + 0)).toNat = (model.items visit.query).length := by
    intro hcounted
    have hfits := hlength hcounted
    rw [Memory.toNat_clampCount]
    omega
  simp only [failure?, hfault, hskew]
  exact if_neg fun hmismatch => hmismatch.2 (hreported hmismatch.1)

end Visit

namespace Memory

/-! ## Handles that come and go -/

/-- Every handle that a session holds was created by it. -/
def State.Numbered (state : State) : Prop :=
  ∀ key ∈ state.table.keys, key ≤ state.table.last

def State.enumerated (state : State) (count : Nat) : State where
  table := { state.table with last := state.table.last + count }
  stats := { state.stats with opened := state.stats.opened + count, closed := state.stats.closed + count }

namespace State

@[simp] theorem enumerated_enumerated (state : State) (first second : Nat) :
    (state.enumerated first).enumerated second = state.enumerated (first + second) := by
  simp [enumerated, Nat.add_assoc]

theorem Numbered.enumerated {state : State} (h : state.Numbered) (count : Nat) : (state.enumerated count).Numbered :=
  fun key hkey => Nat.le_trans (h key hkey) (Nat.le_add_right _ _)

theorem numbered_of_entries {state : State} (h : state.table.entries = []) : state.Numbered := by
  simp [Numbered, HandleTable.keys, h]

end State

namespace HandleTable

theorem remove_move (table : HandleTable) (handle : Handle) (position : Nat) :
    (table.move handle position).remove handle = table.remove handle := by
  simp only [remove, move]
  congr 1
  induction table.entries with
  | nil => rfl
  | cons entry entries ih =>
      by_cases hkey : entry.1 = handle.id <;> simpa [hkey] using ih

theorem move_add (table : HandleTable) (enumeration : Enumeration) (h : ∀ key ∈ table.keys, key ≤ table.last) :
    (table.add enumeration).2.move ⟨table.last + 1⟩ enumeration.position = (table.add enumeration).2 := by
  have hentries : table.entries.map (fun entry => if entry.1 = table.last + 1 then
      (entry.1, { entry.2 with position := enumeration.position }) else entry) = table.entries := by
    rw [List.map_congr_left (g := id), List.map_id]
    intro entry hentry
    have hle := h entry.1 (List.mem_map_of_mem hentry)
    rw [if_neg (by omega), id]
  rw [move, add, List.map_cons, if_pos rfl, hentries]

theorem remove_add (table : HandleTable) (enumeration : Enumeration) (h : ∀ key ∈ table.keys, key ≤ table.last) :
    (table.add enumeration).2.remove ⟨table.last + 1⟩ = { table with last := table.last + 1 } := by
  have hentries : table.entries.filter (·.1 ≠ table.last + 1) = table.entries := by
    rw [List.filter_eq_self]
    intro entry hentry
    have hle := h entry.1 (List.mem_map_of_mem hentry)
    simp only [ne_eq, decide_eq_true_eq]
    omega
  rw [remove, add, List.filter_cons_of_neg (by simp), hentries]

end HandleTable

variable {model : Model} {faults : FaultPlan} {cursor : Cursor} {state : State} {position : Nat}

theorem OpenAt.close (h : OpenAt model cursor state position) (faults : FaultPlan) :
    cursor.close (session model faults) state =
      { table := state.table.remove cursor.handle
        stats := { state.stats with closed := state.stats.closed + 1 } } := by
  have hopen : (state.table.get? cursor.handle).isSome := by
    rw [h.get?_eq]
    rfl
  rw [Cursor.close, if_pos h.isOpened]
  change Memory.close cursor.handle state = _
  rw [Memory.close, if_pos hopen]

theorem OpenAt.run_count (h : OpenAt model cursor state position) (faults : FaultPlan) :
    (CursorDrive.count (session model faults)).run (cursor, state) =
      (.ok (clampCount ((model.items cursor.query).length + Iterator.skew faults ⟨cursor.query, none⟩)), cursor,
        state) := by
  rw [CursorDrive.run_count, h.count faults]
  rfl

/-! ## Computations that open and close enumerations -/

/-- From every session a computation gives the answer and leaves the session as so many enumerations do that were opened
and closed. -/
def Enumerates {α : Type} (m : Drive State α) (answer : Except Failure α) (count : Nat) : Prop :=
  ∀ state : State, state.Numbered → m.run state = (answer.mapError .failed, state.enumerated count)

section

variable {α β : Type} {m : Drive State α} {f : α → Drive State β} {first second : Nat}

theorem enumerates_pure (a : α) : Enumerates (pure a) (.ok a) 0 :=
  fun _ _ => rfl

theorem enumerates_fail (failure : Failure) : Enumerates (Drive.fail failure : Drive State α) (.error failure) 0 :=
  fun _ _ => rfl

theorem Enumerates.andThen {a : α} {answer : Except Failure β} (hm : Enumerates m (.ok a) first)
    (hf : Enumerates (f a) answer second) : Enumerates (m >>= f) answer (first + second) := by
  intro state hstate
  rw [Drive.run_bind_of_ok (hm state hstate), hf _ (hstate.enumerated first), State.enumerated_enumerated]

theorem Enumerates.stop {failure : Failure} (hm : Enumerates m (.error failure) first) (f : α → Drive State β) :
    Enumerates (m >>= f) (.error failure) first :=
  fun state hstate => Drive.run_bind_of_error (hm state hstate) f

/-- What a computation on a new cursor opens is closed again, wherever it stands by then. -/
theorem run_onCursor_created (hstate : state.Numbered) {query : Query} {body : CursorDrive State α}
    {answer : Except Stop α} {stats : Stats}
    (h : body.run (⟨query, .unopened⟩, state) = (answer, ⟨query, ⟨state.table.last + 1⟩⟩,
      { (state.created model query).moved ⟨state.table.last + 1⟩ position with stats })) :
    (Drive.onCursor (session model faults) query body).run state = (answer,
      { table := { state.table with last := state.table.last + 1 }
        stats := { stats with closed := stats.closed + 1 } }) := by
  have hmoved : OpenAt model _ _ position := (OpenAt.created query state).moved position
  have hopen : OpenAt model ⟨query, ⟨state.table.last + 1⟩⟩
      { (state.created model query).moved ⟨state.table.last + 1⟩ position with stats } position :=
    ⟨hmoved.isOpened, hmoved.get?_eq⟩
  have hremoved := HandleTable.remove_add _ ⟨query.kind, model.items query, 0⟩ hstate
  rw [Drive.run_onCursor_of_run h, hopen.close faults]
  simp only [State.moved, State.created, HandleTable.remove_move, hremoved]

theorem enumerates_onCursor {query : Query} {body : CursorDrive State α} {answer : Except Failure α}
    (h : ∀ state : State, state.Numbered → ∃ position, body.run (⟨query, .unopened⟩, state) =
      (answer.mapError .failed, ⟨query, ⟨state.table.last + 1⟩⟩,
        (state.created model query).moved ⟨state.table.last + 1⟩ position)) :
    Enumerates (Drive.onCursor (session model faults) query body) answer 1 := by
  intro state hstate
  obtain ⟨position, hbody⟩ := h state hstate
  exact run_onCursor_created hstate hbody

end

/-! ## Enumerations -/

theorem State.Numbered.moved_created (hstate : state.Numbered) (query : Query) :
    (state.created model query).moved ⟨state.table.last + 1⟩ 0 = state.created model query := by
  rw [State.moved, State.created_table, HandleTable.move_add _ _ hstate]
  rfl

theorem run_drain_unopened {query : Query} (hoverrun : ¬Overruns model faults query) (capacity : Nat)
    (hstate : state.Numbered) :
    (CursorDrive.drain (session model faults) capacity).run (⟨query, .unopened⟩, state) =
      match Iterator.fault? faults ⟨query, none⟩ with
      | some status =>
        (.error (.failed (.pagingFailed query status)), ⟨query, ⟨state.table.last + 1⟩⟩,
          (state.created model query).moved ⟨state.table.last + 1⟩ 0)
      | none =>
        (.ok (model.items query), ⟨query, ⟨state.table.last + 1⟩⟩,
          (state.created model query).moved ⟨state.table.last + 1⟩ (model.items query).length) := by
  have hopen : OpenAt model _ _ 0 := .created query state
  rw [CursorDrive.run_drain, drain_unopened, hopen.drain hoverrun, Nat.zero_max, hstate.moved_created]
  cases Iterator.fault? faults ⟨query, none⟩ <;> rfl

theorem enumerates_drain {query : Query} (hoverrun : ¬Overruns model faults query) (capacity : Nat) :
    Enumerates ((Lister.of (session model faults) capacity).drain query) (Visit.answer model faults ⟨query, false⟩)
      1 := by
  refine enumerates_onCursor fun state hstate => ?_
  have hdrain := run_drain_unopened hoverrun (max capacity 1) hstate
  unfold Visit.answer Visit.failure?
  cases hfault : Iterator.fault? faults ⟨query, none⟩ with
  | some status => exact ⟨0, by rw [hfault] at hdrain; exact hdrain⟩
  | none => exact ⟨(model.items query).length, by rw [hfault] at hdrain; exact hdrain⟩

theorem enumerates_collect_of_drained {query : Query} {capacity : Nat} {tokens : List Token}
    (h : ∀ state : State, state.Numbered → ∃ position,
      (CursorDrive.drain (session model faults) (max capacity 1)).run (⟨query, .unopened⟩, state) =
        (.ok tokens, ⟨query, ⟨state.table.last + 1⟩⟩,
          (state.created model query).moved ⟨state.table.last + 1⟩ position)) :
    let reported := (clampCount ((model.items query).length + Iterator.skew faults ⟨query, none⟩)).toNat
    Enumerates ((Lister.of (session model faults) capacity).collect query)
      (if reported = tokens.length then .ok tokens else .error (.countMismatch query reported tokens.length)) 1 := by
  let reported := clampCount ((model.items query).length + Iterator.skew faults ⟨query, none⟩)
  have hcursor : Enumerates (Drive.onCursor (session model faults) query do
      let tokens ← CursorDrive.drain (session model faults) (max capacity 1)
      let reported ← CursorDrive.count (session model faults)
      return (tokens, reported)) (.ok (tokens, reported)) 1 := by
    refine enumerates_onCursor fun state hstate => ?_
    obtain ⟨position, hdrain⟩ := h state hstate
    have hopen : OpenAt model _ _ position := (OpenAt.created query state).moved position
    exact ⟨position, (Drive.run_bind_of_ok hdrain _).trans (Drive.run_bind_of_ok (hopen.run_count faults) _)⟩
  refine Enumerates.andThen hcursor (?_ : Enumerates _ _ 0)
  dsimp only
  split_ifs with hcount
  · exact enumerates_pure _
  · exact enumerates_fail _

theorem enumerates_collect_of_failed {query : Query} {capacity : Nat} {failure : Failure}
    (h : ∀ state : State, state.Numbered → ∃ position,
      (CursorDrive.drain (session model faults) (max capacity 1)).run (⟨query, .unopened⟩, state) =
        (.error (.failed failure), ⟨query, ⟨state.table.last + 1⟩⟩,
          (state.created model query).moved ⟨state.table.last + 1⟩ position)) :
    Enumerates ((Lister.of (session model faults) capacity).collect query) (.error failure) 1 := by
  refine Enumerates.stop (enumerates_onCursor fun state hstate => ?_) _
  obtain ⟨position, hdrain⟩ := h state hstate
  exact ⟨position, Drive.run_bind_of_error hdrain _⟩

theorem enumerates_collect {query : Query} (hoverrun : ¬Overruns model faults query) (capacity : Nat) :
    Enumerates ((Lister.of (session model faults) capacity).collect query) (Visit.answer model faults ⟨query, true⟩)
      1 := by
  have hdrain := fun (state : State) (hstate : state.Numbered) =>
    run_drain_unopened hoverrun (max capacity 1) hstate
  unfold Visit.answer Visit.failure?
  cases hfault : Iterator.fault? faults ⟨query, none⟩ with
  | some status =>
      rw [hfault] at hdrain
      exact enumerates_collect_of_failed fun state hstate => ⟨0, hdrain state hstate⟩
  | none =>
      rw [hfault] at hdrain
      have hcollect := enumerates_collect_of_drained fun state hstate => ⟨_, hdrain state hstate⟩
      dsimp only at hcollect ⊢
      by_cases hcount : (clampCount ((model.items query).length + Iterator.skew faults ⟨query, none⟩)).toNat =
          (model.items query).length
      · rw [if_pos hcount] at hcollect
        rw [if_neg fun h => h.2 hcount]
        exact hcollect
      · rw [if_neg hcount] at hcollect
        rw [if_pos ⟨rfl, hcount⟩]
        exact hcollect

theorem enumerates_enumerate (model : Model) (hoverrun : faults.pageOverrun = none) (capacity : Nat) (visit : Visit) :
    Enumerates ((Lister.of (session model faults) capacity).enumerate visit) (visit.answer model faults) 1 := by
  obtain ⟨query, counted⟩ := visit
  cases counted with
  | false => exact enumerates_drain (not_overruns hoverrun query) capacity
  | true => exact enumerates_collect (not_overruns hoverrun query) capacity

end Memory

end MetaParity
