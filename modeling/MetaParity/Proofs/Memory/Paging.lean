import MetaParity.Proofs.Footing
import MetaParity.Proofs.Memory.Iterator
import MetaParity.Proofs.Memory.Table

/-! # Paging one enumeration

What pages and drains of an open enumeration answer and what they leave behind, in any state of the session. A drain
answers the same and leaves the same behind whatever its page size. -/

namespace MetaParity.Memory

variable {model : Model} {faults : FaultPlan} {cursor : Cursor} {state : State} {position : Nat}

/-- Pages of the query claim one item more than they hold, and there are pages that hold any. -/
def Overruns (model : Model) (faults : FaultPlan) (query : Query) : Prop :=
  faults.pageOverrun = some query.kind ∧ model.items query ≠ []

instance (model : Model) (faults : FaultPlan) (query : Query) : Decidable (Overruns model faults query) :=
  inferInstanceAs (Decidable (_ ∧ _))

theorem not_overruns (h : faults.pageOverrun = none) (query : Query) : ¬Overruns model faults query := by
  rintro ⟨hkind, -⟩
  rw [h] at hkind
  cases hkind

/-! ## Open enumerations -/

def State.moved (state : State) (handle : Handle) (position : Nat) : State :=
  { state with table := state.table.move handle position }

def State.created (model : Model) (query : Query) (state : State) : State where
  table := (state.table.add ⟨query.kind, model.items query, 0⟩).2
  stats := { state.stats with opened := state.stats.opened + 1 }

/-- A cursor holds the handle of an open enumeration of its query, of which so many items lie behind it. -/
structure OpenAt (model : Model) (cursor : Cursor) (state : State) (position : Nat) : Prop where
  isOpened : cursor.isOpened
  get?_eq : state.table.get? cursor.handle = some ⟨cursor.query.kind, model.items cursor.query, position⟩

@[simp] theorem State.created_table (model : Model) (query : Query) (state : State) :
    (state.created model query).table = (state.table.add ⟨query.kind, model.items query, 0⟩).2 := rfl

theorem State.moved_moved (state : State) (handle : Handle) (first second : Nat) :
    (state.moved handle first).moved handle second = state.moved handle second := by
  rw [moved, moved, moved, HandleTable.move_move]

theorem page_of_isOpened (model : Model) (faults : FaultPlan) (h : cursor.isOpened) (capacity : Nat) (state : State) :
    (session model faults).page cursor.handle cursor.query capacity state =
      pageOf faults cursor.handle capacity state :=
  if_pos h

namespace OpenAt

theorem created (query : Query) (state : State) :
    OpenAt model ⟨query, ⟨state.table.last + 1⟩⟩ (state.created model query) 0 :=
  ⟨by simp [Cursor.isOpened, Handle.isOpened], HandleTable.get?_add_self _ _⟩

theorem moved (h : OpenAt model cursor state position) (next : Nat) :
    OpenAt model cursor (state.moved cursor.handle next) next where
  isOpened := h.isOpened
  get?_eq := by rw [State.moved, HandleTable.get?_move, if_pos rfl, h.get?_eq, Option.map_some]

/-! ## Counts and resets -/

theorem count (h : OpenAt model cursor state position) (faults : FaultPlan) :
    cursor.count (session model faults) state =
      (.ok (clampCount ((model.items cursor.query).length + (⟨cursor.query, none⟩ : Iterator).skew faults)), state) := by
  have hcall : (session model faults).count cursor.handle state = Memory.count faults cursor.handle state := rfl
  rw [Cursor.count, if_pos h.isOpened, hcall, Memory.count, h.get?_eq]
  rfl

theorem reset (h : OpenAt model cursor state position) (faults : FaultPlan) (offset : UInt32) :
    cursor.reset (session model faults) offset state =
      match faults.reset with
      | some status => (.error (.resetFailed cursor.query offset.toNat status), state)
      | none =>
        (.ok (), { state.moved cursor.handle offset.toNat with stats.resets := state.stats.resets + 1 }) := by
  have hcall : (session model faults).reset cursor.handle offset state = Memory.reset faults cursor.handle offset state :=
    rfl
  rw [Cursor.reset, if_pos h.isOpened, hcall, Memory.reset, h.get?_eq]
  cases faults.reset <;> rfl

/-! ## Pages -/

theorem page_of_failing (h : OpenAt model cursor state position) {status : Status}
    (hfault : Iterator.fault? faults ⟨cursor.query, none⟩ = some status) (buffer : Buffer) :
    cursor.page (session model faults) buffer state =
      (.error (.pagingFailed cursor.query status), cursor, buffer.write [], state) := by
  obtain ⟨fault, hpaging, rfl⟩ := Option.map_eq_some_iff.mp hfault
  unfold Cursor.page
  rw [page_of_isOpened model faults h.isOpened, pageOf, h.get?_eq]
  dsimp only at hpaging ⊢
  rw [hpaging]

/-- A page writes what fits of the items ahead. One that claims an item more overruns its buffer or ends with what that
held there. -/
theorem page_of_served (h : OpenAt model cursor state position)
    (hfault : Iterator.fault? faults ⟨cursor.query, none⟩ = none) (buffer : Buffer) :
    let taken := ((model.items cursor.query).drop position).take buffer.capacity
    let returned := taken.length + if faults.pageOverrun = some cursor.query.kind ∧ taken ≠ [] then 1 else 0
    cursor.page (session model faults) buffer state =
      (if returned > buffer.capacity then .error (.pageOverrun cursor.query returned buffer.capacity)
        else .ok ((buffer.write taken).first returned),
      cursor, buffer.write taken, state.moved cursor.handle (position + taken.length)) := by
  rw [Iterator.fault?, Option.map_eq_none_iff] at hfault
  unfold Cursor.page
  rw [page_of_isOpened model faults h.isOpened, pageOf, h.get?_eq]
  dsimp only
  rw [hfault]
  rfl

theorem page (h : OpenAt model cursor state position) (hoverrun : ¬Overruns model faults cursor.query)
    (buffer : Buffer) :
    cursor.page (session model faults) buffer state =
      match Iterator.fault? faults ⟨cursor.query, none⟩ with
      | some status => (.error (.pagingFailed cursor.query status), cursor, buffer.write [], state)
      | none =>
        let taken := ((model.items cursor.query).drop position).take buffer.capacity
        (.ok taken, cursor, buffer.write taken, state.moved cursor.handle (position + taken.length)) := by
  cases hfault : Iterator.fault? faults ⟨cursor.query, none⟩ with
  | some status => exact h.page_of_failing hfault buffer
  | none =>
      let taken := ((model.items cursor.query).drop position).take buffer.capacity
      have hfits : taken.length ≤ buffer.capacity := List.length_take_le _ _
      have hextra : ¬(faults.pageOverrun = some cursor.query.kind ∧ taken ≠ []) := by
        rintro ⟨hkind, htaken⟩
        exact htaken (by simp [taken, of_not_not fun hitems => hoverrun ⟨hkind, hitems⟩])
      have hpage := h.page_of_served hfault buffer
      dsimp only at hpage
      rw [hpage, if_neg hextra, Nat.add_zero, if_neg (Nat.not_lt.mpr hfits), buffer.first_write hfits]

/-! ## Drains -/

/-- Pages of an open enumeration fail where they are, and otherwise a drain yields what is left and leaves it behind. -/
theorem drainFrom (h : OpenAt model cursor state position) (hoverrun : ¬Overruns model faults cursor.query)
    {fuel : Nat} (buffer : Buffer) (hcapacity : 0 < buffer.capacity)
    (hfuel : ((model.items cursor.query).drop position).length < fuel) :
    cursor.drainFrom (session model faults) fuel buffer state =
      match Iterator.fault? faults ⟨cursor.query, none⟩ with
      | some status => (⟨[], some (.failed (.pagingFailed cursor.query status))⟩, cursor, state)
      | none =>
        (⟨(model.items cursor.query).drop position, none⟩, cursor,
          state.moved cursor.handle (max position (model.items cursor.query).length)) := by
  -- Every page but the last takes an item at least off what is left.
  induction fuel generalizing buffer state position with
  | zero => exact absurd hfuel (Nat.not_lt_zero _)
  | succ fuel ih =>
      rw [Cursor.drainFrom, h.page hoverrun]
      cases hfault : Iterator.fault? faults ⟨cursor.query, none⟩ with
      | some status => rfl
      | none =>
          simp only [hfault] at ih
          dsimp only
          have hlength := List.length_take (l := (model.items cursor.query).drop position) (i := buffer.capacity)
          rw [List.length_drop] at hlength hfuel
          cases htaken : ((model.items cursor.query).drop position).take buffer.capacity with
          | nil =>
              rw [htaken, List.length_nil] at hlength
              have hbehind : (model.items cursor.query).length ≤ position := by omega
              rw [List.drop_eq_nil_of_le hbehind, Nat.max_eq_left hbehind]
              rfl
          | cons token more =>
              rw [htaken, List.length_cons] at hlength
              have hall := List.prefix_iff_eq_append.mp
                (List.take_prefix buffer.capacity ((model.items cursor.query).drop position))
              rw [htaken, List.drop_drop] at hall
              have hend : max (position + (token :: more).length) (model.items cursor.query).length =
                  max position (model.items cursor.query).length := by
                rw [List.length_cons]
                omega
              dsimp only
              rw [ih (h.moved _) (buffer.write (token :: more)) hcapacity (by
                rw [List.length_drop, List.length_cons]
                omega)]
              simp only [State.moved_moved, hend, hall]

/-- A drain takes as many pages as it needs: no more than there are items left, and the empty one. -/
theorem drain (h : OpenAt model cursor state position) (hoverrun : ¬Overruns model faults cursor.query)
    (capacity : Nat) :
    cursor.drain (session model faults) capacity state =
      match Iterator.fault? faults ⟨cursor.query, none⟩ with
      | some status => (⟨[], some (.failed (.pagingFailed cursor.query status))⟩, cursor, state)
      | none =>
        (⟨(model.items cursor.query).drop position, none⟩, cursor,
          state.moved cursor.handle (max position (model.items cursor.query).length)) := by
  refine h.drainFrom hoverrun _ (Nat.lt_of_lt_of_le Nat.one_pos (Nat.le_max_right capacity 1)) ?_
  have hitems := model.length_items_le cursor.query
  change _ < model.size + 1
  rw [List.length_drop]
  omega

end OpenAt

/-! ## First pages -/

theorem page_unopened (query : Query) (buffer : Buffer) (state : State) :
    Cursor.page (session model faults) ⟨query, .unopened⟩ buffer state =
      Cursor.page (session model faults) ⟨query, ⟨state.table.last + 1⟩⟩ buffer (state.created model query) := by
  rfl

theorem drainFrom_unopened (query : Query) (fuel : Nat) (buffer : Buffer) (state : State) :
    Cursor.drainFrom (session model faults) (fuel + 1) buffer ⟨query, .unopened⟩ state =
      Cursor.drainFrom (session model faults) (fuel + 1) buffer ⟨query, ⟨state.table.last + 1⟩⟩
        (state.created model query) := by
  rw [Cursor.drainFrom, Cursor.drainFrom, page_unopened]

theorem drain_unopened (query : Query) (capacity : Nat) (state : State) :
    Cursor.drain (session model faults) capacity ⟨query, .unopened⟩ state =
      Cursor.drain (session model faults) capacity ⟨query, ⟨state.table.last + 1⟩⟩ (state.created model query) :=
  drainFrom_unopened query model.size _ state

/-! ## Cursors that stand somewhere -/

/-- A cursor that is where an iterator is: not open yet, or at its position. -/
inductive Stands (model : Model) : Iterator → Cursor × State → Prop where
  | unopened (query : Query) (state : State) : Stands model ⟨query, none⟩ (⟨query, .unopened⟩, state)
  | opened {query : Query} {handle : Handle} {state : State} {position : Nat} :
      OpenAt model ⟨query, handle⟩ state position → Stands model ⟨query, some position⟩ (⟨query, handle⟩, state)

def footing (model : Model) (faults : FaultPlan) :
    Footing (session model faults) (fun query => (⟨query, none⟩ : Iterator)) where
  Holds _ := True
  Stands := Stands model
  opens query _ := .unopened query _
  close _ := trivial

theorem OpenAt.stands_page {query : Query} {handle : Handle} (h : OpenAt model ⟨query, handle⟩ state position)
    (hoverrun : faults.pageOverrun = none) (buffer : Buffer) :
    let moved := Cursor.page (session model faults) ⟨query, handle⟩ buffer state
    let iterated := Iterator.page model faults buffer.capacity ⟨query, some position⟩
    moved.1 = iterated.1 ∧ Stands model iterated.2 (moved.2.1, moved.2.2.2) := by
  have hfault : Iterator.fault? faults ⟨query, some position⟩ = Iterator.fault? faults ⟨query, none⟩ := rfl
  unfold Iterator.page
  rw [h.page (not_overruns hoverrun _), hfault]
  cases Iterator.fault? faults ⟨query, none⟩ with
  | some status => exact ⟨rfl, .opened h⟩
  | none => exact ⟨rfl, .opened (h.moved _)⟩

theorem Stands.page {iterator : Iterator} {c : Cursor} (h : Stands model iterator (c, state))
    (hoverrun : faults.pageOverrun = none) (buffer : Buffer) :
    (c.page (session model faults) buffer state).1 = (iterator.page model faults buffer.capacity).1 ∧
      Stands model (iterator.page model faults buffer.capacity).2
        ((c.page (session model faults) buffer state).2.1, (c.page (session model faults) buffer state).2.2.2) := by
  cases h with
  | unopened query =>
      have hopen : OpenAt model ⟨query, ⟨state.table.last + 1⟩⟩ (state.created model query) 0 := .created query state
      rw [page_unopened, ← Iterator.page_advance_zero]
      exact hopen.stands_page hoverrun buffer
  | opened hopen => exact hopen.stands_page hoverrun buffer

theorem Stands.count {iterator : Iterator} {c : Cursor} (h : Stands model iterator (c, state)) :
    (c.count (session model faults) state).1 = .ok (iterator.count model faults) ∧
      Stands model iterator (c, (c.count (session model faults) state).2) := by
  cases h with
  | unopened query => exact ⟨rfl, .unopened query state⟩
  | opened hopen =>
      rw [hopen.count faults]
      exact ⟨rfl, .opened hopen⟩

theorem Stands.reset {iterator : Iterator} {c : Cursor} (h : Stands model iterator (c, state)) (offset : UInt32) :
    (c.reset (session model faults) offset state).1 = (iterator.reset faults offset).1 ∧
      Stands model (iterator.reset faults offset).2 (c, (c.reset (session model faults) offset state).2) := by
  cases h with
  | unopened query => exact ⟨rfl, .unopened query state⟩
  | opened hopen =>
      rw [hopen.reset faults offset]
      unfold Iterator.reset
      cases faults.reset with
      | some status => exact ⟨rfl, .opened hopen⟩
      | none => exact ⟨rfl, .opened ⟨hopen.isOpened, (hopen.moved offset.toNat).get?_eq⟩⟩

end MetaParity.Memory
