import MetaParity.Proofs.Memory.Paging
import Mathlib.Logic.Function.Basic

/-! # Cursors are iterators

Cursors over one in-memory session share a table of handles. Each has a handle of its own, so what one of them does
leaves the others where they are, and each answers as an iterator does. -/

namespace MetaParity.Memory

variable {ι : Type} {model : Model} {faults : FaultPlan} {cursors : ι → Cursor}
  {iterators : ι → Iterator} {start : Stats} {state : State}

/-- Every cursor stands where its iterator does, with a handle of its own, and the table holds the handles of cursors
only. Since `start`, as many handles were opened as were closed or are held. -/
structure Coherent (model : Model) (cursors : ι → Cursor) (iterators : ι → Iterator) (start : Stats) (state : State) :
    Prop where
  query_eq : ∀ i, (cursors i).query = (iterators i).query
  unopened : ∀ i, (iterators i).position = none → (cursors i).handle = .unopened
  opened : ∀ i position, (iterators i).position = some position → (cursors i).isOpened ∧
    state.table.get? (cursors i).handle =
      some ⟨(iterators i).query.kind, model.items (iterators i).query, position⟩
  apart : ∀ i j, (cursors i).isOpened → (cursors i).handle = (cursors j).handle → i = j
  keys_le : ∀ key ∈ state.table.keys, 0 < key ∧ key ≤ state.table.last
  keys_nodup : state.table.keys.Nodup
  owned : ∀ key ∈ state.table.keys, ∃ i, (cursors i).handle.id = key
  opened_eq : state.stats.opened + start.closed = start.opened + state.stats.closed + state.table.keys.length
  doubleCloses_eq : state.stats.doubleCloses = start.doubleCloses
  unknownHandleCalls_eq : state.stats.unknownHandleCalls = start.unknownHandleCalls

namespace Coherent

theorem fresh (queries : ι → Query) (state : State) (h : state.table.entries = []) :
    Coherent model (fun i => ⟨queries i, .unopened⟩) (fun i => ⟨queries i, none⟩) state.stats state where
  query_eq _ := rfl
  unopened _ _ := rfl
  opened _ _ h := by cases h
  apart _ _ h := by cases h
  keys_le := by simp [HandleTable.keys, h]
  keys_nodup := by simp [HandleTable.keys, h]
  owned := by simp [HandleTable.keys, h]
  opened_eq := by
    simp only [HandleTable.keys, h, List.map_nil, List.length_nil]
    omega
  doubleCloses_eq := rfl
  unknownHandleCalls_eq := rfl

theorem isOpened_iff (h : Coherent model cursors iterators start state) (i : ι) :
    (cursors i).isOpened = (iterators i).position.isSome := by
  cases hposition : (iterators i).position with
  | none => rw [Cursor.isOpened, h.unopened i hposition]; rfl
  | some position => exact (h.opened i position hposition).1

theorem eq_unopened (h : Coherent model cursors iterators start state) {i : ι} (hposition : (iterators i).position = none) :
    cursors i = ⟨(iterators i).query, .unopened⟩ := by
  rw [← h.query_eq i, ← h.unopened i hposition]

theorem openAt (h : Coherent model cursors iterators start state) {i : ι} {position : Nat}
    (hposition : (iterators i).position = some position) : OpenAt model (cursors i) state position := by
  obtain ⟨hopened, hget⟩ := h.opened i position hposition
  exact ⟨hopened, by rw [hget, h.query_eq i]⟩

theorem fault?_eq (h : Coherent model cursors iterators start state) (faults : FaultPlan) (i : ι) :
    Iterator.fault? faults ⟨(cursors i).query, none⟩ = (iterators i).fault? faults := by
  rw [h.query_eq i]
  rfl

theorem rest_eq (h : Coherent model cursors iterators start state) {i : ι} {position : Nat}
    (hposition : (iterators i).position = some position) :
    (model.items (cursors i).query).drop position = (iterators i).rest model := by
  rw [Iterator.rest, hposition, h.query_eq i, Option.getD_some]

theorem mem_keys (h : Coherent model cursors iterators start state) {i : ι} (hopened : (cursors i).isOpened) :
    (cursors i).handle.id ∈ state.table.keys := by
  rw [h.isOpened_iff, Option.isSome_iff_exists] at hopened
  obtain ⟨position, hposition⟩ := hopened
  rw [← HandleTable.isSome_get?, (h.opened i position hposition).2]
  rfl

/-- Once no cursor is open the table is empty and every handle that was opened has been closed. -/
theorem all_closed (h : Coherent model cursors iterators start state) (hclosed : ∀ i, (iterators i).position = none) :
    state.table.entries = [] ∧ state.stats.opened + start.closed = start.opened + state.stats.closed := by
  have hkeys : state.table.keys = [] := by
    rw [List.eq_nil_iff_forall_not_mem]
    intro key hkey
    obtain ⟨i, rfl⟩ := h.owned key hkey
    have hpos := (h.keys_le _ hkey).1
    rw [h.unopened i (hclosed i)] at hpos
    exact absurd hpos (by decide)
  have hopened := h.opened_eq
  rw [hkeys] at hopened
  exact ⟨List.map_eq_nil_iff.mp hkeys, hopened⟩

theorem count (h : Coherent model cursors iterators start state) (faults : FaultPlan) (i : ι) :
    (cursors i).count (session model faults) state = (.ok ((iterators i).count model faults), state) := by
  unfold Iterator.count
  cases hposition : (iterators i).position with
  | none =>
      have hclosed : ¬ (cursors i).isOpened := by simp [h.isOpened_iff, hposition]
      rw [Cursor.count, if_neg hclosed]
  | some position =>
      rw [(h.openAt hposition).count faults, h.query_eq i]
      rfl

/-! ## Opening, moving and closing one cursor -/

theorem handle_ne (h : Coherent model cursors iterators start state) (i : ι) :
    (cursors i).handle.id ≠ state.table.last + 1 := by
  cases hposition : (iterators i).position with
  | none =>
      rw [h.unopened i hposition]
      exact (Nat.succ_ne_zero _).symm
  | some position =>
      have hle := (h.keys_le _ (h.mem_keys (h.opened i position hposition).1)).2
      omega

variable [DecidableEq ι]

theorem query_update (h : Coherent model cursors iterators start state) {i : ι} {cursor : Cursor}
    {iterator : Iterator} (hquery : cursor.query = iterator.query) (j : ι) :
    (Function.update cursors i cursor j).query = (Function.update iterators i iterator j).query := by
  by_cases hj : j = i
  · subst hj
    rw [Function.update_self, Function.update_self, hquery]
  · rw [Function.update_of_ne hj, Function.update_of_ne hj, h.query_eq j]

theorem create (h : Coherent model cursors iterators start state) {i : ι} (hposition : (iterators i).position = none) :
    Coherent model (Function.update cursors i ⟨(iterators i).query, ⟨state.table.last + 1⟩⟩)
      (Function.update iterators i ((iterators i).advance 0)) start (state.created model (iterators i).query) where
  query_eq := h.query_update rfl
  unopened j hj := by
    have hne : j ≠ i := by
      rintro rfl
      simp at hj
    simp only [Function.update_of_ne hne] at hj ⊢
    exact h.unopened j hj
  opened j position hj := by
    by_cases hne : j = i
    · subst hne
      simp only [Function.update_self, Iterator.position_advance, hposition] at hj ⊢
      obtain rfl : 0 = position := by simpa using hj
      exact ⟨rfl, by simp⟩
    · simp only [Function.update_of_ne hne] at hj ⊢
      rw [State.created_table, HandleTable.get?_add_of_ne _ _ (h.handle_ne j)]
      exact h.opened j position hj
  apart j k hopened heq := by
    have hnew := h.handle_ne
    by_cases hj : j = i <;> by_cases hk : k = i
    · rw [hj, hk]
    · subst hj
      simp only [Function.update_self, Function.update_of_ne hk] at heq
      exact absurd (congrArg Handle.id heq).symm (hnew k)
    · subst hk
      simp only [Function.update_self, Function.update_of_ne hj] at heq
      exact absurd (congrArg Handle.id heq) (hnew j)
    · simp only [Function.update_of_ne hj, Function.update_of_ne hk] at hopened heq
      exact h.apart j k hopened heq
  keys_le key hkey := by
    rw [State.created_table, HandleTable.keys_add, List.mem_cons] at hkey
    change 0 < key ∧ key ≤ state.table.last + 1
    rcases hkey with rfl | hkey
    · omega
    · have hle := h.keys_le key hkey
      omega
  keys_nodup := by
    rw [State.created_table, HandleTable.keys_add, List.nodup_cons]
    refine ⟨fun hkey => ?_, h.keys_nodup⟩
    have hle := h.keys_le _ hkey
    omega
  owned key hkey := by
    rw [State.created_table, HandleTable.keys_add, List.mem_cons] at hkey
    rcases hkey with rfl | hkey
    · exact ⟨i, by simp⟩
    · obtain ⟨j, rfl⟩ := h.owned key hkey
      refine ⟨j, ?_⟩
      have hj : j ≠ i := by
        rintro rfl
        have hle := h.keys_le _ hkey
        rw [h.unopened j hposition] at hle
        exact absurd hle.1 (by decide)
      rw [Function.update_of_ne hj]
  opened_eq := by
    have hopened := h.opened_eq
    simp only [State.created, HandleTable.keys_add, List.length_cons]
    omega
  doubleCloses_eq := h.doubleCloses_eq
  unknownHandleCalls_eq := h.unknownHandleCalls_eq

theorem position_create {i : ι} (hposition : (iterators i).position = none) :
    (Function.update iterators i ((iterators i).advance 0) i).position = some 0 := by
  rw [Function.update_self, Iterator.position_advance, hposition]
  rfl

theorem move (h : Coherent model cursors iterators start state) {i : ι} (hopened : (cursors i).isOpened)
    (position resets : Nat) :
    Coherent model cursors (Function.update iterators i { iterators i with position := some position }) start
      { table := state.table.move (cursors i).handle position, stats := { state.stats with resets } } where
  query_eq j := by
    rw [← Function.update_eq_self i cursors]
    refine h.query_update ?_ j
    exact h.query_eq i
  unopened j hj := by
    have hne : j ≠ i := by
      rintro rfl
      simp at hj
    rw [Function.update_of_ne hne] at hj
    exact h.unopened j hj
  opened j place hj := by
    rw [HandleTable.get?_move]
    by_cases hne : j = i
    · subst hne
      obtain ⟨old, hold⟩ := Option.isSome_iff_exists.mp ((h.isOpened_iff j).symm.trans hopened)
      rw [Function.update_self] at hj ⊢
      obtain rfl := Option.some.inj hj
      rw [if_pos rfl, (h.opened j old hold).2]
      exact ⟨hopened, rfl⟩
    · rw [Function.update_of_ne hne] at hj ⊢
      rw [if_neg fun heq => hne (h.apart i j hopened heq.symm).symm]
      exact h.opened j place hj
  apart := h.apart
  keys_le := by
    rw [HandleTable.keys_move]
    exact h.keys_le
  keys_nodup := by
    rw [HandleTable.keys_move]
    exact h.keys_nodup
  owned := by
    rw [HandleTable.keys_move]
    exact h.owned
  opened_eq := by
    rw [HandleTable.keys_move]
    exact h.opened_eq
  doubleCloses_eq := h.doubleCloses_eq
  unknownHandleCalls_eq := h.unknownHandleCalls_eq

theorem remove (h : Coherent model cursors iterators start state) {i : ι} (hopened : (cursors i).isOpened) :
    Coherent model (Function.update cursors i { cursors i with handle := .unopened })
      (Function.update iterators i (iterators i).close) start
      { table := state.table.remove (cursors i).handle
        stats := { state.stats with closed := state.stats.closed + 1 } } where
  query_eq := h.query_update (h.query_eq i)
  unopened j hj := by
    by_cases hne : j = i
    · subst hne
      simp
    · simp only [Function.update_of_ne hne] at hj ⊢
      exact h.unopened j hj
  opened j position hj := by
    have hne : j ≠ i := by
      rintro rfl
      simp [Iterator.close] at hj
    simp only [Function.update_of_ne hne] at hj ⊢
    rw [HandleTable.get?_remove_of_ne _ fun heq => hne (h.apart i j hopened heq.symm).symm]
    exact h.opened j position hj
  apart j k hj heq := by
    by_cases hji : j = i
    · subst hji
      simp [Cursor.isOpened, Handle.isOpened, Handle.unopened] at hj
    · rw [Function.update_of_ne hji] at hj heq
      by_cases hki : k = i
      · subst hki
        rw [Function.update_self] at heq
        rw [Cursor.isOpened, heq] at hj
        cases hj
      · rw [Function.update_of_ne hki] at heq
        exact h.apart j k hj heq
  keys_le key hkey := by
    rw [HandleTable.keys_remove] at hkey
    exact h.keys_le key (List.mem_filter.mp hkey).1
  keys_nodup := by
    rw [HandleTable.keys_remove]
    exact h.keys_nodup.filter _
  owned key hkey := by
    rw [HandleTable.keys_remove, List.mem_filter] at hkey
    obtain ⟨j, rfl⟩ := h.owned key hkey.1
    refine ⟨j, ?_⟩
    have hj : j ≠ i := by
      rintro rfl
      simp at hkey
    rw [Function.update_of_ne hj]
  opened_eq := by
    have hcount := h.opened_eq
    have hlength := state.table.length_keys_remove h.keys_nodup (h.mem_keys hopened)
    simp only
    omega
  doubleCloses_eq := h.doubleCloses_eq
  unknownHandleCalls_eq := h.unknownHandleCalls_eq

/-! ## Using one cursor -/

theorem advance (h : Coherent model cursors iterators start state) {i : ι} {position : Nat}
    (hposition : (iterators i).position = some position) (count : Nat) :
    Coherent model cursors (Function.update iterators i ((iterators i).advance count)) start
      (state.moved (cursors i).handle (position + count)) := by
  rw [Iterator.advance, hposition, Option.getD_some]
  exact h.move (h.openAt hposition).isOpened _ state.stats.resets

theorem advance_zero (h : Coherent model cursors iterators start state) {i : ι} {position : Nat}
    (hposition : (iterators i).position = some position) :
    Coherent model cursors (Function.update iterators i ((iterators i).advance 0)) start state := by
  rw [Iterator.advance_zero hposition, Function.update_eq_self]
  exact h

theorem page_of_opened (h : Coherent model cursors iterators start state) (hoverrun : faults.pageOverrun = none) {i : ι}
    {position : Nat} (hposition : (iterators i).position = some position) (buffer : Buffer) :
    ∃ next state', (cursors i).page (session model faults) buffer state =
        (((iterators i).page model faults buffer.capacity).1, cursors i, next, state') ∧
      Coherent model cursors (Function.update iterators i ((iterators i).page model faults buffer.capacity).2) start
        state' := by
  rw [(h.openAt hposition).page (not_overruns hoverrun _), Iterator.page, h.fault?_eq faults, h.rest_eq hposition]
  cases (iterators i).fault? faults with
  | some status => exact ⟨_, state, by rw [h.query_eq i], h.advance_zero hposition⟩
  | none => exact ⟨_, _, rfl, h.advance hposition _⟩

theorem drain_of_opened (h : Coherent model cursors iterators start state) (hoverrun : faults.pageOverrun = none)
    {i : ι} {position : Nat} (hposition : (iterators i).position = some position) (capacity : Nat) :
    ∃ state', (cursors i).drain (session model faults) capacity state =
        (((iterators i).drain model faults).1, cursors i, state') ∧
      Coherent model cursors (Function.update iterators i ((iterators i).drain model faults).2) start state' := by
  have hend : max position (model.items (cursors i).query).length =
      position + ((model.items (cursors i).query).drop position).length := by
    rw [List.length_drop]
    omega
  rw [(h.openAt hposition).drain (not_overruns hoverrun _), Iterator.drain, h.fault?_eq faults, hend, h.rest_eq hposition]
  cases (iterators i).fault? faults with
  | some status => exact ⟨state, by rw [h.query_eq i], h.advance_zero hposition⟩
  | none => exact ⟨_, rfl, h.advance hposition _⟩

theorem page (h : Coherent model cursors iterators start state) (hoverrun : faults.pageOverrun = none) (i : ι)
    (buffer : Buffer) :
    ∃ cursor next state', Cursor.page (session model faults) (cursors i) buffer state =
        (((iterators i).page model faults buffer.capacity).1, cursor, next, state') ∧
      Coherent model (Function.update cursors i cursor)
        (Function.update iterators i ((iterators i).page model faults buffer.capacity).2) start state' := by
  cases hposition : (iterators i).position with
  | none =>
      -- A cursor that is not open is created first, at the start of its list, and then pages as an open one.
      obtain ⟨next, state', hpage, hcoherent⟩ := (h.create hposition).page_of_opened hoverrun
        (position_create hposition) buffer
      rw [Function.update_self, Function.update_self, Iterator.page_advance_zero, ← page_unopened,
        ← h.eq_unopened hposition] at hpage
      simp only [Function.update_self, Function.update_idem, Iterator.page_advance_zero] at hcoherent
      exact ⟨_, next, state', hpage, hcoherent⟩
  | some position =>
      obtain ⟨next, state', hpage, hcoherent⟩ := h.page_of_opened hoverrun hposition buffer
      exact ⟨cursors i, next, state', hpage, by simpa using hcoherent⟩

theorem drain (h : Coherent model cursors iterators start state) (hoverrun : faults.pageOverrun = none) (i : ι)
    (capacity : Nat) :
    ∃ cursor state', (cursors i).drain (session model faults) capacity state =
        (((iterators i).drain model faults).1, cursor, state') ∧
      Coherent model (Function.update cursors i cursor)
        (Function.update iterators i ((iterators i).drain model faults).2) start state' := by
  cases hposition : (iterators i).position with
  | none =>
      obtain ⟨state', hdrain, hcoherent⟩ := (h.create hposition).drain_of_opened hoverrun
        (position_create hposition) capacity
      rw [Function.update_self, Function.update_self, Iterator.drain_advance_zero, ← drain_unopened,
        ← h.eq_unopened hposition] at hdrain
      simp only [Function.update_self, Function.update_idem, Iterator.drain_advance_zero] at hcoherent
      exact ⟨_, state', hdrain, hcoherent⟩
  | some position =>
      obtain ⟨state', hdrain, hcoherent⟩ := h.drain_of_opened hoverrun hposition capacity
      exact ⟨cursors i, state', hdrain, by simpa using hcoherent⟩

theorem reset (h : Coherent model cursors iterators start state) (faults : FaultPlan) (i : ι) (offset : UInt32) :
    ∃ state', (cursors i).reset (session model faults) offset state =
        (((iterators i).reset faults offset).1, state') ∧
      Coherent model cursors (Function.update iterators i ((iterators i).reset faults offset).2) start state' := by
  unfold Iterator.reset
  cases hposition : (iterators i).position with
  | none =>
      have hclosed : ¬ (cursors i).isOpened := by simp [h.isOpened_iff, hposition]
      rw [Cursor.reset, if_neg hclosed]
      exact ⟨state, rfl, by simpa using h⟩
  | some position =>
      rw [(h.openAt hposition).reset faults offset]
      cases faults.reset with
      | some status => exact ⟨state, by rw [h.query_eq i], by simpa using h⟩
      | none => exact ⟨_, rfl, h.move (h.openAt hposition).isOpened offset.toNat (state.stats.resets + 1)⟩

theorem close (h : Coherent model cursors iterators start state) (faults : FaultPlan) (i : ι) :
    Coherent model (Function.update cursors i { cursors i with handle := .unopened })
      (Function.update iterators i (iterators i).close) start ((cursors i).close (session model faults) state) := by
  unfold Cursor.close
  rw [h.isOpened_iff]
  cases hposition : (iterators i).position with
  | none =>
      have hcursor : { cursors i with handle := .unopened } = cursors i := by
        rw [← h.unopened i hposition]
      have hiterator : (iterators i).close = iterators i := by
        rw [Iterator.close, ← hposition]
      rw [hcursor, hiterator]
      simpa using h
  | some position =>
      have hopened := (h.opened i position hposition).1
      have hmem := (state.table.isSome_get? (cursors i).handle).mpr (h.mem_keys hopened)
      change Coherent _ _ _ _ (Memory.close (cursors i).handle state)
      rw [Memory.close, if_pos hmem]
      exact h.remove hopened

end Coherent

end MetaParity.Memory
