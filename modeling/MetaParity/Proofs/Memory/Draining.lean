import MetaParity.Proofs.Draining
import MetaParity.Proofs.Memory.Collect

/-! # Drains of an in-memory session end

A drain has no bound of its own. Over an in-memory session every page that is not empty takes items off what is left of
its enumeration, even if it claims more than it holds, and so the number of page calls is told by what was left. -/

namespace MetaParity.Memory

/-! ## What is left -/

namespace Enumeration

/-- How many items of an enumeration were not delivered yet: none, if it was moved beyond its end. -/
def left (enumeration : Enumeration) : Nat :=
  enumeration.items.length - enumeration.position

/-- Pages of the enumeration fail, or claim one item more than they hold. -/
def Faulty (faults : FaultPlan) (enumeration : Enumeration) : Prop :=
  (∃ status, faults.paging = some (enumeration.kind, status)) ∨ faults.pageOverrun = some enumeration.kind

end Enumeration

namespace State

/-- The enumeration that a cursor pages next: that of its handle, if it is open, or a new one, if there is no handle
yet. -/
def ahead? (model : Model) (cursor : Cursor) (state : State) : Option Enumeration :=
  if cursor.isOpened then state.table.get? cursor.handle
  else some ⟨cursor.query.kind, model.items cursor.query, 0⟩

def left (model : Model) (cursor : Cursor) (state : State) : Nat :=
  (state.ahead? model cursor).elim 0 (·.left)

end State

/-- How many page calls it takes until an empty page, if so many items are left and pages are full. -/
def callsFor (left capacity : Nat) : Nat :=
  (left + capacity - 1) / capacity + 1

theorem callsFor_zero {capacity : Nat} (hcapacity : 0 < capacity) : callsFor 0 capacity = 1 := by
  rw [callsFor, Nat.div_eq_of_lt (by omega)]

theorem callsFor_of_pos {left capacity : Nat} (hleft : 0 < left) (hcapacity : 0 < capacity) :
    callsFor left capacity = callsFor (left - min left capacity) capacity + 1 := by
  by_cases hfits : left ≤ capacity
  · have hlast : (left + capacity - 1) / capacity = 1 := by
      rw [Nat.div_eq_iff hcapacity]
      omega
    rw [Nat.min_eq_left hfits, Nat.sub_self, callsFor_zero hcapacity, callsFor, hlast]
  · have hfull : left + capacity - 1 = left - capacity + capacity - 1 + capacity := by omega
    rw [Nat.min_eq_right (Nat.le_of_not_le hfits), callsFor, callsFor, hfull, Nat.add_div_right _ hcapacity]

theorem callsFor_le {left capacity : Nat} (hcapacity : 0 < capacity) : callsFor left capacity ≤ left + 1 := by
  have hleft : left ≤ left * capacity := Nat.le_mul_of_pos_right left hcapacity
  rw [callsFor, Nat.add_le_add_iff_right]
  apply Nat.le_of_lt_succ
  rw [Nat.div_lt_iff_lt_mul hcapacity, Nat.succ_mul]
  omega

/-! ## One page -/

/-- What a page comes to, and the enumeration that the next page is of: a page ends the drain unless items were left. -/
inductive Serves (faults : FaultPlan) (capacity : Nat) (enumeration : Enumeration) :
    Except Failure (List Token) → Enumeration → Prop where
  | failed {failure : Failure} {next : Enumeration} : enumeration.Faulty faults →
      Serves faults capacity enumeration (.error failure) next
  | ended {next : Enumeration} : enumeration.left = 0 → Serves faults capacity enumeration (.ok []) next
  | delivered {token : Token} {more : List Token} {next : Enumeration} : 0 < enumeration.left →
      next.kind = enumeration.kind → next.left = enumeration.left - min enumeration.left capacity →
      Serves faults capacity enumeration (.ok (token :: more)) next

variable {model : Model} {faults : FaultPlan} {cursor : Cursor} {state : State} {buffer : Buffer}
  {enumeration : Enumeration}

theorem ahead?_of_isOpened (h : cursor.isOpened) : state.ahead? model cursor = state.table.get? cursor.handle :=
  if_pos h

theorem left_of_ahead? (h : state.ahead? model cursor = some enumeration) :
    state.left model cursor = enumeration.left := by
  rw [State.left, h]
  rfl

theorem ahead?_created (model : Model) (query : Query) (state : State) :
    (state.created model query).ahead? model ⟨query, ⟨state.table.last + 1⟩⟩ =
      state.ahead? model ⟨query, .unopened⟩ :=
  HandleTable.get?_add_self _ _

theorem page_of_ahead?_eq_none (h : state.ahead? model cursor = none) (buffer : Buffer) :
    cursor.page (session model faults) buffer state =
      (.error (.pagingFailed cursor.query .invalidArgument), cursor, buffer.write [], state.noteUnknown) := by
  have hopened : cursor.isOpened := by
    by_contra hopened
    rw [State.ahead?, if_neg hopened] at h
    cases h
  rw [ahead?_of_isOpened hopened] at h
  unfold Cursor.page
  rw [page_of_isOpened model faults hopened, pageOf, h]

theorem serves_of_taken {taken : List Token} (htaken : taken.length = min buffer.capacity enumeration.left)
    (hcapacity : 0 < buffer.capacity) (query : Query) :
    let claimed := taken.length + if faults.pageOverrun = some enumeration.kind ∧ taken ≠ [] then 1 else 0
    Serves faults buffer.capacity enumeration
      (if claimed > (buffer.write taken).capacity then .error (.pageOverrun query claimed (buffer.write taken).capacity)
        else .ok ((buffer.write taken).first claimed))
      { enumeration with position := enumeration.position + taken.length } := by
  cases taken with
  | nil =>
      have hend : enumeration.left = 0 := by
        rw [List.length_nil] at htaken
        omega
      simpa [Buffer.first] using Serves.ended hend
  | cons token more =>
      dsimp only
      generalize hextra : (if faults.pageOverrun = some enumeration.kind ∧ token :: more ≠ [] then 1 else 0) = extra
      split
      · next hlong =>
          -- What was taken fits, and so the page is too long only if it claims an item more.
          apply Serves.failed
          apply Or.inr
          by_contra hkind
          rw [if_neg fun hoverrun => hkind hoverrun.1] at hextra
          rw [← hextra, Buffer.capacity_write] at hlong
          omega
      · obtain ⟨first, rest, hpage⟩ := List.exists_cons_of_length_pos
          (l := (buffer.write (token :: more)).first ((token :: more).length + extra))
          (by rw [Buffer.length_first, List.length_cons]; omega)
        rw [hpage]
        rw [List.length_cons] at htaken
        apply Serves.delivered
        · omega
        · rfl
        · unfold Enumeration.left at htaken ⊢
          dsimp only
          rw [List.length_cons]
          omega

theorem exists_serves_of_isOpened (model : Model) (faults : FaultPlan) (hopened : cursor.isOpened)
    (hahead : state.table.get? cursor.handle = some enumeration) (hcapacity : 0 < buffer.capacity) :
    ∃ result next buffer' state', cursor.page (session model faults) buffer state = (result, cursor, buffer', state') ∧
      buffer'.capacity = buffer.capacity ∧ state'.table.get? cursor.handle = some next ∧
      Serves faults buffer.capacity enumeration result next := by
  unfold Cursor.page
  rw [page_of_isOpened model faults hopened, pageOf, hahead]
  dsimp only
  cases hpaging : faults.paging.filter (·.1 = enumeration.kind) with
  | some fault =>
      obtain ⟨hfault, hkind⟩ := Option.filter_eq_some_iff.mp hpaging
      obtain ⟨kind, status⟩ := fault
      obtain rfl : kind = enumeration.kind := of_decide_eq_true hkind
      exact ⟨_, enumeration, _, state, rfl, rfl, hahead, .failed (.inl ⟨status, hfault⟩)⟩
  | none =>
      have htaken := List.length_take (l := enumeration.items.drop enumeration.position) (i := buffer.capacity)
      rw [List.length_drop] at htaken
      have hnext (position : Nat) : (state.table.move cursor.handle position).get? cursor.handle =
          some { enumeration with position } := by
        rw [HandleTable.get?_move, if_pos rfl, hahead, Option.map_some]
      exact ⟨_, _, _, _, rfl, rfl, hnext _, serves_of_taken htaken hcapacity cursor.query⟩

/-- A page of a session answers a failure at once, or serves the enumeration that is ahead of its cursor. -/
theorem exists_serves (faults : FaultPlan) (hahead : state.ahead? model cursor = some enumeration)
    (hcapacity : 0 < buffer.capacity) :
    ∃ result cursor' next buffer' state', cursor.page (session model faults) buffer state =
        (result, cursor', buffer', state') ∧
      buffer'.capacity = buffer.capacity ∧ state'.ahead? model cursor' = some next ∧
      Serves faults buffer.capacity enumeration result next := by
  by_cases hopened : cursor.isOpened
  · rw [ahead?_of_isOpened hopened] at hahead
    obtain ⟨result, next, buffer', state', hpage, hbuffer, hnext, hserves⟩ :=
      exists_serves_of_isOpened model faults hopened hahead hcapacity
    exact ⟨result, cursor, next, buffer', state', hpage, hbuffer, (ahead?_of_isOpened hopened).trans hnext, hserves⟩
  · obtain ⟨query, ⟨id⟩⟩ := cursor
    obtain rfl : id = 0 := by simpa [Cursor.isOpened, Handle.isOpened] using hopened
    have hopened' : Cursor.isOpened ⟨query, ⟨state.table.last + 1⟩⟩ := by simp [Cursor.isOpened, Handle.isOpened]
    have hcreated := ahead?_created model query state
    obtain ⟨result, next, buffer', state', hpage, hbuffer, hnext, hserves⟩ :=
      exists_serves_of_isOpened model faults hopened'
        ((ahead?_of_isOpened hopened').symm.trans (hcreated.trans hahead)) hcapacity
    exact ⟨result, _, next, buffer', state', (page_unopened query buffer state).trans hpage, hbuffer,
      (ahead?_of_isOpened hopened').trans hnext, hserves⟩

/-! ## Drains -/

/-- Pages neither fail nor claim an item more: neither fault applies to what is ahead of the cursor. -/
def State.Faultless (model : Model) (faults : FaultPlan) (cursor : Cursor) (state : State) : Prop :=
  ∀ enumeration ∈ state.ahead? model cursor, ¬enumeration.Faulty faults

theorem State.Faultless.of_kind_eq (h : state.Faultless model faults cursor)
    (hahead : state.ahead? model cursor = some enumeration) {state' : State} {cursor' : Cursor} {next : Enumeration}
    (hnext : state'.ahead? model cursor' = some next) (hkind : next.kind = enumeration.kind) :
    state'.Faultless model faults cursor' := by
  intro other hother
  rw [hnext] at hother
  obtain rfl := Option.some.inj hother
  unfold Enumeration.Faulty
  rw [hkind]
  exact h enumeration hahead

/-- A drain that may take enough pages ends, and takes no more of them than it needs. -/
theorem length_log_drainIntoFrom (model : Model) (faults : FaultPlan) (cursor : Cursor) (state : State) {fuel : Nat}
    (buffer : Buffer) (hcapacity : 0 < buffer.capacity)
    (hfuel : callsFor (state.left model cursor) buffer.capacity ≤ fuel) (out : List Token) (log : List Call) :
    let (stop, _, _, _, log') := cursor.drainIntoFrom (session model faults).traced fuel buffer out (state, log)
    stop ≠ some .exhausted ∧ log'.length ≤ log.length + callsFor (state.left model cursor) buffer.capacity ∧
      (state.Faultless model faults cursor →
        log'.length = log.length + callsFor (state.left model cursor) buffer.capacity) := by
  induction fuel generalizing cursor state buffer out log with
  | zero => exact absurd hfuel (Nat.not_succ_le_zero _)
  | succ fuel ih =>
      rw [Cursor.drainIntoFrom, Cursor.page_traced]
      cases hahead : state.ahead? model cursor with
      | none =>
          have hleft : state.left model cursor = 0 := by rw [State.left, hahead]; rfl
          rw [page_of_ahead?_eq_none hahead, hleft, callsFor_zero hcapacity]
          simp
      | some enumeration =>
          obtain ⟨result, cursor', next, buffer', state', hpage, hbuffer, hnext, hserves⟩ :=
            exists_serves faults hahead hcapacity
          rw [hpage, left_of_ahead? hahead]
          dsimp only
          cases hserves with
          | failed hfaulty =>
              refine ⟨by simp, ?_, fun hfaultless => absurd hfaulty (hfaultless enumeration hahead)⟩
              rw [List.length_append]
              exact Nat.add_le_add_left (Nat.le_add_left 1 _) _
          | ended hend =>
              rw [hend, callsFor_zero hcapacity]
              simp
          | delivered hpos hkind hrest =>
              -- One call is made, and the items that are left take one call less.
              have hstep := callsFor_of_pos hpos hcapacity
              have hleft := (left_of_ahead? hnext).trans hrest
              rw [left_of_ahead? hahead, hstep] at hfuel
              obtain ⟨hends, hle, hexact⟩ := ih cursor' state' buffer' (hbuffer ▸ hcapacity)
                (by rw [hbuffer, hleft]; exact Nat.le_of_succ_le_succ hfuel) _ _
              rw [hbuffer, hleft, List.length_append] at hle hexact
              refine ⟨hends, ?_, fun hfaultless => ?_⟩
              · rw [hstep]
                simpa [Nat.add_assoc, Nat.add_comm] using hle
              · rw [hstep]
                simpa [Nat.add_assoc, Nat.add_comm] using hexact (hfaultless.of_kind_eq hahead hnext hkind)

theorem exists_drainInto (model : Model) (faults : FaultPlan) (cursor : Cursor) (state : State) (capacity : Nat)
    (out : List Token) (log : List Call) :
    let most := callsFor (state.left model cursor) (max capacity 1)
    ∃ (replies : List PageReply) (result : Except Stop Nat) (filled : List Token) (cursor' : Cursor) (state' : State),
      result ≠ .error .exhausted ∧ replies.length ≤ most ∧
      (state.Faultless model faults cursor → replies.length = most) ∧
      ∀ limit, most ≤ limit →
        cursor.drainInto ((session model faults).limited limit).traced capacity out (state, log) =
          (result, filled, cursor', state',
            log ++ PageReply.calls cursor.query (max capacity 1) cursor.handle replies) := by
  intro most
  have hcapacity : 0 < (Buffer.empty (max capacity 1)).capacity := Nat.lt_of_lt_of_le Nat.one_pos (Nat.le_max_right _ _)
  obtain ⟨replies, stop, cursor', state', -, -, hrun⟩ :=
    Cursor.exists_drains (session model faults) most (.empty (max capacity 1)) out cursor state log
  have hlog := length_log_drainIntoFrom model faults cursor state _ hcapacity (Nat.le_refl most) out log
  rw [hrun] at hlog
  obtain ⟨hends, hle, hexact⟩ := hlog
  rw [List.length_append, PageReply.length_calls, Nat.add_le_add_iff_left] at hle
  rw [List.length_append, PageReply.length_calls, Nat.add_right_inj] at hexact
  let drained : Drained := ⟨(PageReply.pages (.empty (max capacity 1)) replies).flatten, stop⟩
  have hstop : drained.stop ≠ some .exhausted := hends
  refine ⟨replies, drained.appended, out ++ drained.tokens, cursor', state', ?_, hle, hexact, fun limit hlimit => ?_⟩
  · intro hresult
    exact hstop (Drained.appended_eq_error_iff.mp hresult)
  · exact Cursor.drainInto_limited hlimit hrun hstop

/-! ## Sessions in use -/

def HandleTable.Within (size : Nat) (table : HandleTable) : Prop :=
  ∀ entry ∈ table.entries, entry.2.items.length ≤ size

namespace HandleTable.Within

variable {size : Nat} {table : HandleTable}

theorem add (h : table.Within size) {enumeration : Enumeration} (hitems : enumeration.items.length ≤ size) :
    (table.add enumeration).2.Within size :=
  List.forall_mem_cons.mpr ⟨hitems, h⟩

theorem move (h : table.Within size) (handle : Handle) (position : Nat) : (table.move handle position).Within size := by
  intro entry hentry
  obtain ⟨held, hheld, rfl⟩ := List.mem_map.mp hentry
  have hitems := h held hheld
  split
  · exact hitems
  · exact hitems

theorem remove (h : table.Within size) (handle : Handle) : (table.remove handle).Within size :=
  fun entry hentry => h entry (List.mem_filter.mp hentry).1

theorem left_le (h : table.Within size) {handle : Handle} {enumeration : Enumeration}
    (hget : table.get? handle = some enumeration) : enumeration.left ≤ size := by
  obtain ⟨before, after, hentries, -⟩ := List.lookup_eq_some_iff.mp hget
  have hitems := h (handle.id, enumeration) (by rw [hentries]; simp)
  exact Nat.le_trans (Nat.sub_le _ _) hitems

end HandleTable.Within

theorem within_pageOf (h : state.table.Within model.size) (faults : FaultPlan) (handle : Handle) (capacity : Nat) :
    (pageOf faults handle capacity state).2.table.Within model.size := by
  unfold pageOf
  cases state.table.get? handle with
  | none => exact h
  | some enumeration =>
      dsimp only
      cases faults.paging.filter (·.1 = enumeration.kind) with
      | some fault => exact h
      | none => exact h.move handle _

theorem within_run (h : state.table.Within model.size) (faults : FaultPlan) (request : Request) :
    (request.run (session model faults) state).2.table.Within model.size := by
  cases request with
  | page handle query capacity =>
      change (page model faults handle query capacity state).2.table.Within model.size
      unfold page
      split
      · exact within_pageOf h faults handle capacity
      · exact within_pageOf (h.add (model.length_items_le query)) faults _ capacity
  | count handle =>
      change (count faults handle state).2.table.Within model.size
      unfold count
      split <;> exact h
  | reset handle position =>
      change (reset faults handle position state).2.table.Within model.size
      unfold reset
      split
      · exact h
      · split
        · exact h.move handle _
        · exact h
  | close handle =>
      change (close handle state).table.Within model.size
      unfold close
      split
      · exact h.remove handle
      · exact h
  | signature token => exact h

theorem within_after (model : Model) (faults : FaultPlan) (requests : List Request) :
    (State.after model faults requests).table.Within model.size := by
  induction requests using List.reverseRecOn with
  | nil => exact fun entry hentry => absurd hentry List.not_mem_nil
  | append_singleton requests request ih =>
      rw [State.after, List.foldl_append]
      exact within_run ih faults request

theorem left_le_of_within (h : state.table.Within model.size) (cursor : Cursor) :
    state.left model cursor ≤ model.size := by
  unfold State.left
  cases hahead : state.ahead? model cursor with
  | none => exact Nat.zero_le _
  | some enumeration =>
      unfold State.ahead? at hahead
      split at hahead
      · exact h.left_le hahead
      · cases hahead
        exact Nat.le_trans (Nat.sub_le _ _) (model.length_items_le cursor.query)

/-- Whatever was asked of a session before and whatever its faults, a drain ends by itself, after at most as many page
calls as full pages need and one for the empty page; exactly as many without faults. The limit of the session never ends
it. -/
theorem drainInto_ends (model : Model) (faults : FaultPlan) (requests : List Request) (cursor : Cursor) (capacity : Nat)
    (out : List Token) (log : List Call) :
    let state := State.after model faults requests
    let most := (state.left model cursor + max capacity 1 - 1) / max capacity 1 + 1
    ∃ (replies : List PageReply) (result : Except Stop Nat) (filled : List Token) (cursor' : Cursor) (state' : State),
      let ending := (result, filled, cursor', state',
        log ++ PageReply.calls cursor.query (max capacity 1) cursor.handle replies)
      cursor.drainInto (session model faults).traced capacity out (state, log) = ending ∧
      (∀ limit, most ≤ limit →
        cursor.drainInto ((session model faults).limited limit).traced capacity out (state, log) = ending) ∧
      result ≠ .error .exhausted ∧ replies.length ≤ most ∧
      (state.Faultless model faults cursor → replies.length = most) := by
  intro state most
  have hcapacity : 0 < max capacity 1 := Nat.lt_of_lt_of_le Nat.one_pos (Nat.le_max_right _ _)
  obtain ⟨replies, result, filled, cursor', state', hends, hle, hexact, hrun⟩ :=
    exists_drainInto model faults cursor state capacity out log
  have hmost : most ≤ model.size + 1 := by
    have hleft := left_le_of_within (within_after model faults requests) cursor
    exact Nat.le_trans (callsFor_le hcapacity) (Nat.succ_le_succ hleft)
  exact ⟨replies, result, filled, cursor', state', hrun (model.size + 1) hmost, hrun, hends, hle, hexact⟩

/-- A cursor that delivered four of six types and was then moved back to the second, under faults of other enumerations.
-/
theorem drainInto_ends_rewound :
    let model := Model.synthetic 6 0 0 0
    let faults : FaultPlan := { paging := some (.fields, .fail), pageOverrun := some .typeRefs }
    let state := State.after model faults [.page .unopened .typeDefs 4, .reset ⟨1⟩ 1]
    let cursor : Cursor := ⟨.typeDefs, ⟨1⟩⟩
    state.left model cursor = 5 ∧ state.Faultless model faults cursor ∧
      ∃ (replies : List PageReply) (result : Except Stop Nat) (filled : List Token) (cursor' : Cursor) (state' : State),
        cursor.drainInto (session model faults).traced 2 [] (state, []) =
          (result, filled, cursor', state', PageReply.calls .typeDefs 2 ⟨1⟩ replies) ∧
        result ≠ .error .exhausted ∧ replies.length = 4 := by
  intro model faults state cursor
  have hahead : state.ahead? model cursor = some ⟨.typeDefs, model.items .typeDefs, 1⟩ := by decide +kernel
  have hleft : state.left model cursor = 5 := by
    rw [left_of_ahead? hahead]
    decide +kernel
  have hfaultless : state.Faultless model faults cursor := by
    intro enumeration henumeration
    rw [hahead] at henumeration
    cases henumeration
    simp [Enumeration.Faulty, faults]
  obtain ⟨replies, result, filled, cursor', state', hrun, -, hends, -, hexact⟩ :=
    drainInto_ends model faults [.page .unopened .typeDefs 4, .reset ⟨1⟩ 1] cursor 2 [] []
  have hlength := hexact hfaultless
  rw [hleft] at hlength
  exact ⟨hleft, hfaultless, replies, result, filled, cursor', state', hrun, hends, hlength⟩

end MetaParity.Memory
