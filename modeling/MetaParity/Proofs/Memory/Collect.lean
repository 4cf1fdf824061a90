import MetaParity.Proofs.Memory.Effects
import MetaParity.Proofs.Memory.Visit

/-! # Checked enumerations under all faults

What draining an enumeration and checking its count answers, whichever faults come together: pages that fail, pages that
claim one item more than they hold, and counts that are off. -/

namespace MetaParity

/-- A page that claims one token more than was written into a new buffer ends with a nil token. -/
theorem Buffer.first_write_empty {tokens : List Token} {capacity : Nat} (h : tokens.length < capacity) :
    ((Buffer.empty capacity).write tokens).first (tokens.length + 1) = tokens ++ [.nil] := by
  have htake : tokens.take capacity = tokens := List.take_of_length_le (Nat.le_of_lt h)
  simp [write, first, empty, htake, List.take_of_length_le]

namespace Memory

section

variable (model : Model) (faults : FaultPlan) (query : Query)

/-- How many items a session reports: as many as there are, off by what the faults say, as far as 32 bits hold it. -/
def reported : Nat :=
  min ((model.items query).length + Iterator.skew faults ⟨query, none⟩).toNat 0xffffffff

/-- What pages hand over that are not too long for their buffer: the items, and what the buffer held behind them if one
more is claimed. -/
def produced : List Token :=
  if Overruns model faults query then model.items query ++ [.nil] else model.items query

/-- What an enumeration of the query answers whose count is checked, by pages of a capacity. -/
def collected (capacity : Nat) : Except Failure (List Token) :=
  match Iterator.fault? faults ⟨query, none⟩ with
  | some status => .error (.pagingFailed query status)
  | none =>
    if Overruns model faults query ∧ capacity ≤ (model.items query).length then
      .error (.pageOverrun query (capacity + 1) capacity)
    else if reported model faults query = (produced model faults query).length then
      .ok (produced model faults query)
    else .error (.countMismatch query (reported model faults query) (produced model faults query).length)

end

variable {model : Model} {faults : FaultPlan} {query : Query} {cursor : Cursor} {state : State} {position capacity : Nat}

theorem reported_eq : reported model faults query =
    (clampCount ((model.items query).length + Iterator.skew faults ⟨query, none⟩)).toNat :=
  (toNat_clampCount _).symm

/-! ## Pages that claim too much -/

namespace OpenAt

theorem page_of_end (h : OpenAt model cursor state position)
    (hfault : Iterator.fault? faults ⟨cursor.query, none⟩ = none)
    (hend : (model.items cursor.query).length ≤ position) (buffer : Buffer) :
    cursor.page (session model faults) buffer state =
      (.ok [], cursor, buffer.write [], state.moved cursor.handle position) := by
  have hpage := h.page_of_served hfault buffer
  simpa [List.drop_eq_nil_of_le hend, Buffer.first] using hpage

theorem page_of_full (h : OpenAt model cursor state 0) (hfault : Iterator.fault? faults ⟨cursor.query, none⟩ = none)
    (hoverrun : Overruns model faults cursor.query) {buffer : Buffer} (hcapacity : 0 < buffer.capacity)
    (hfull : buffer.capacity ≤ (model.items cursor.query).length) :
    cursor.page (session model faults) buffer state =
      (.error (.pageOverrun cursor.query (buffer.capacity + 1) buffer.capacity), cursor,
        buffer.write ((model.items cursor.query).take buffer.capacity),
        state.moved cursor.handle buffer.capacity) := by
  have hlength : ((model.items cursor.query).take buffer.capacity).length = buffer.capacity :=
    List.length_take_of_le hfull
  have htaken : (model.items cursor.query).take buffer.capacity ≠ [] :=
    List.ne_nil_of_length_pos (by rwa [hlength])
  have hpage := h.page_of_served hfault buffer
  simp only [List.drop_zero, hlength, hoverrun.1, htaken, ne_eq, not_false_eq_true, and_self, if_true, gt_iff_lt,
    Nat.lt_succ_self, Nat.zero_add] at hpage
  exact hpage

theorem page_of_room (h : OpenAt model cursor state 0) (hfault : Iterator.fault? faults ⟨cursor.query, none⟩ = none)
    (hoverrun : Overruns model faults cursor.query) (hroom : (model.items cursor.query).length < capacity) :
    cursor.page (session model faults) (.empty capacity) state =
      (.ok (model.items cursor.query ++ [.nil]), cursor, (Buffer.empty capacity).write (model.items cursor.query),
        state.moved cursor.handle (model.items cursor.query).length) := by
  have htake : (model.items cursor.query).take (Buffer.empty capacity).capacity = model.items cursor.query :=
    List.take_of_length_le (Nat.le_of_lt hroom)
  have hfits : ¬(Buffer.empty capacity).capacity < (model.items cursor.query).length + 1 := Nat.not_lt.mpr hroom
  have hpage := h.page_of_served hfault (.empty capacity)
  simp only [List.drop_zero, htake, hoverrun.1, hoverrun.2, ne_eq, not_false_eq_true, and_self, if_true, gt_iff_lt, hfits,
    if_false, Buffer.first_write_empty hroom, Nat.zero_add] at hpage
  exact hpage

end OpenAt

/-! ## Drains -/

section

variable {σ : Type} {session : Import σ} {next : Cursor} {buffer buffer' : Buffer} {s s' : σ} {fuel : Nat}

theorem drainFrom_of_end (h : cursor.page session buffer s = (.ok [], next, buffer', s')) :
    cursor.drainFrom session (fuel + 1) buffer s = (⟨[], none⟩, next, s') := by
  rw [Cursor.drainFrom, h]

theorem drainFrom_of_failed {failure : Failure}
    (h : cursor.page session buffer s = (.error failure, next, buffer', s')) :
    cursor.drainFrom session (fuel + 1) buffer s = (⟨[], some (.failed failure)⟩, next, s') := by
  rw [Cursor.drainFrom, h]

theorem drainFrom_of_page {tokens : List Token} (htokens : tokens ≠ [])
    (h : cursor.page session buffer s = (.ok tokens, next, buffer', s')) :
    cursor.drainFrom session (fuel + 1) buffer s =
      (⟨tokens ++ (next.drainFrom session fuel buffer' s').1.tokens, (next.drainFrom session fuel buffer' s').1.stop⟩,
        (next.drainFrom session fuel buffer' s').2) := by
  obtain ⟨token, more, rfl⟩ := List.exists_cons_of_ne_nil htokens
  rw [Cursor.drainFrom, h]

end

/-- Where every page claims too much, a drain is given up at its first page, or comes to all items and a nil token. -/
theorem run_drain_of_overruns (hoverrun : Overruns model faults query)
    (hfault : Iterator.fault? faults ⟨query, none⟩ = none) (hcapacity : 0 < capacity) (state : State) :
    (CursorDrive.drain (session model faults) capacity).run (⟨query, .unopened⟩, state) =
      if capacity ≤ (model.items query).length then
        (.error (.failed (.pageOverrun query (capacity + 1) capacity)), ⟨query, ⟨state.table.last + 1⟩⟩,
          (state.created model query).moved ⟨state.table.last + 1⟩ capacity)
      else
        (.ok (model.items query ++ [.nil]), ⟨query, ⟨state.table.last + 1⟩⟩,
          (state.created model query).moved ⟨state.table.last + 1⟩ (model.items query).length) := by
  have hopen : OpenAt model _ _ 0 := .created query state
  have hitems : 0 < (model.items query).length := List.length_pos_iff.mpr hoverrun.2
  obtain ⟨fuel, hfuel⟩ : ∃ fuel, model.size = fuel + 1 :=
    Nat.exists_eq_add_of_le' (Nat.lt_of_lt_of_le hitems (model.length_items_le query))
  have hdrain (cursor : Cursor) (state : State) : cursor.drain (session model faults) capacity state =
      cursor.drainFrom (session model faults) (fuel + 1 + 1) (.empty capacity) state := by
    rw [Cursor.drain, Nat.max_eq_left hcapacity, ← hfuel]
    rfl
  rw [CursorDrive.run_drain, drain_unopened, hdrain]
  split_ifs with hfull
  · rw [drainFrom_of_failed (hopen.page_of_full hfault hoverrun hcapacity hfull)]
    rfl
  · have hpage := hopen.page_of_room hfault hoverrun (Nat.not_le.mp hfull)
    have hend := (hopen.moved (model.items query).length).page_of_end hfault (Nat.le_refl _)
    rw [drainFrom_of_page (by simp) hpage, drainFrom_of_end (hend _), State.moved_moved]
    simp [Drained.answer]

theorem run_drain_of_failing {status : Status} (hfault : Iterator.fault? faults ⟨query, none⟩ = some status)
    (capacity : Nat) (hstate : state.Numbered) :
    (CursorDrive.drain (session model faults) capacity).run (⟨query, .unopened⟩, state) =
      (.error (.failed (.pagingFailed query status)), ⟨query, ⟨state.table.last + 1⟩⟩,
        (state.created model query).moved ⟨state.table.last + 1⟩ 0) := by
  have hopen : OpenAt model _ _ 0 := .created query state
  have hdrain : Cursor.drain (session model faults) capacity ⟨query, ⟨state.table.last + 1⟩⟩
      (state.created model query) = _ := drainFrom_of_failed (hopen.page_of_failing hfault _)
  rw [CursorDrive.run_drain, drain_unopened, hdrain, hstate.moved_created]
  rfl

/-! ## Checked enumerations -/

theorem enumerates_collected (model : Model) (faults : FaultPlan) (query : Query) (capacity : Nat) :
    Enumerates ((Lister.of (session model faults) capacity).collect query)
      (collected model faults query (max capacity 1)) 1 := by
  unfold collected produced
  cases hfault : Iterator.fault? faults ⟨query, none⟩ with
  | some status =>
      exact enumerates_collect_of_failed fun state hstate => ⟨0, run_drain_of_failing hfault _ hstate⟩
  | none =>
      by_cases hoverrun : Overruns model faults query
      · have hdrain := run_drain_of_overruns hoverrun hfault (Nat.le_max_right capacity 1)
        by_cases hfull : max capacity 1 ≤ (model.items query).length
        · simp only [hoverrun, hfull, true_and, if_true] at hdrain ⊢
          exact enumerates_collect_of_failed fun state _ => ⟨_, hdrain state⟩
        · simp only [hoverrun, hfull, true_and, if_true, if_false, reported_eq] at hdrain ⊢
          exact enumerates_collect_of_drained fun state _ => ⟨_, hdrain state⟩
      · have hdrain := fun (state : State) (hstate : state.Numbered) =>
          run_drain_unopened hoverrun (max capacity 1) hstate
        rw [hfault] at hdrain
        simp only [hoverrun, false_and, if_false, reported_eq]
        exact enumerates_collect_of_drained fun state hstate => ⟨_, hdrain state hstate⟩

/-- Pages that claim too much go unnoticed only if the reported number is one too high as well. -/
theorem reported_of_collected (hoverrun : Overruns model faults query) {tokens : List Token}
    (h : collected model faults query capacity = .ok tokens) :
    reported model faults query = (model.items query).length + 1 ∧
      ((model.items query).length + 1 < 0xffffffff → Iterator.skew faults ⟨query, none⟩ = 1) := by
  unfold collected at h
  cases hfault : Iterator.fault? faults ⟨query, none⟩ with
  | some status =>
      rw [hfault] at h
      cases h
  | none =>
      have hlength : (produced model faults query).length = (model.items query).length + 1 := by
        rw [produced, if_pos hoverrun, List.length_append, List.length_singleton]
      rw [hfault, hlength] at h
      dsimp only at h
      split_ifs at h with hfull hreported
      refine ⟨hreported, fun hfits => ?_⟩
      unfold reported at hreported
      omega

theorem collected_of_reported (hoverrun : Overruns model faults query)
    (hfault : Iterator.fault? faults ⟨query, none⟩ = none) (hroom : (model.items query).length < capacity)
    (hreported : reported model faults query = (model.items query).length + 1) :
    collected model faults query capacity = .ok (model.items query ++ [.nil]) := by
  have hproduced : produced model faults query = model.items query ++ [.nil] := if_pos hoverrun
  rw [collected, hfault, hproduced, hreported]
  simp [Nat.not_le.mpr hroom]

/-! ## Sessions in use -/

def State.after (model : Model) (faults : FaultPlan) (requests : List Request) : State :=
  requests.foldl (fun state request => (request.run (session model faults) state).2) {}

theorem State.sound_after (model : Model) (faults : FaultPlan) (requests : List Request) :
    (State.after model faults requests).table.Sound := by
  induction requests using List.reverseRecOn with
  | nil => exact .empty
  | append_singleton requests request ih =>
      rw [State.after, List.foldl_append]
      exact (effect ih model faults request).sound

theorem State.numbered_after (model : Model) (faults : FaultPlan) (requests : List Request) :
    (State.after model faults requests).Numbered :=
  fun key hkey => ((State.sound_after model faults requests).keys_le key hkey).2

/-- Whatever was asked of a session before, an enumeration whose count is checked answers the closed form. Pages that
claim too much are accepted only if the reported number is one too high as well. -/
theorem collect_under_faults (model : Model) (faults : FaultPlan) (query : Query) (capacity : Nat)
    (requests : List Request) :
    let state := State.after model faults requests
    ((Lister.of (session model faults) capacity).collect query).run state =
      ((collected model faults query (max capacity 1)).mapError .failed, state.enumerated 1) ∧
    ∀ tokens, collected model faults query (max capacity 1) = .ok tokens → Overruns model faults query →
      reported model faults query = (model.items query).length + 1 ∧
        ((model.items query).length + 1 < 0xffffffff → Iterator.skew faults ⟨query, none⟩ = 1) :=
  ⟨enumerates_collected model faults query capacity _ (State.numbered_after model faults requests),
    fun _ hcollected hoverrun => reported_of_collected hoverrun hcollected⟩

/-- A count that is one too high hides a nil token behind two types, after a page of another enumeration. -/
theorem collect_under_faults_hidden :
    let model := Model.synthetic 2 1 0 0
    let faults : FaultPlan := { pageOverrun := some .typeDefs, countSkew := some (.typeDefs, 1) }
    let state := State.after model faults [.page .unopened .typeRefs 1]
    ((Lister.of (session model faults) 16).collect .typeDefs).run state =
        (.ok [⟨0x02000002⟩, ⟨0x02000003⟩, .nil], state.enumerated 1) ∧
      reported model faults .typeDefs = 3 := by
  intro model faults state
  have hcollected : collected model faults .typeDefs (max 16 1) = .ok [⟨0x02000002⟩, ⟨0x02000003⟩, .nil] := by
    decide +kernel
  obtain ⟨hrun, haccepted⟩ := collect_under_faults model faults .typeDefs 16 [.page .unopened .typeRefs 1]
  rw [hcollected] at hrun
  exact ⟨hrun, (haccepted _ hcollected (by decide +kernel)).1⟩

/-- A count that is two too high hides a nil token where both are clamped to the same number. Pages of nothing need no
count to hide them. -/
theorem collect_under_faults_clamped :
    let model : Model := { typeRefs := List.replicate 0xfffffffe .nil }
    let faults : FaultPlan := { pageOverrun := some .typeRefs, countSkew := some (.typeRefs, 2) }
    let uncounted : FaultPlan := { pageOverrun := some .typeRefs }
    (model.items .typeRefs).length < 0x100000000 ∧ Overruns model faults .typeRefs ∧
    ((Lister.of (session model faults) 0xffffffff).collect .typeRefs).run {} =
      (.ok (model.items .typeRefs ++ [.nil]), State.enumerated {} 1) ∧
    ((Lister.of (session {} uncounted) 16).collect .typeRefs).run {} = (.ok [], State.enumerated {} 1) := by
  intro model faults uncounted
  have hlength : (model.items .typeRefs).length = 0xfffffffe := List.length_replicate
  have hitems : model.items .typeRefs ≠ [] := List.ne_nil_of_length_pos (by omega)
  have hoverrun : Overruns model faults .typeRefs := ⟨rfl, hitems⟩
  have hskew : Iterator.skew faults ⟨.typeRefs, none⟩ = 2 := rfl
  have hreported : reported model faults .typeRefs = (model.items .typeRefs).length + 1 := by
    rw [reported, hskew]
    omega
  have hroom : (model.items .typeRefs).length < max 0xffffffff 1 := by omega
  have hcollected := collected_of_reported hoverrun rfl hroom hreported
  have hnumbered : State.Numbered {} := State.numbered_of_entries rfl
  refine ⟨by omega, hoverrun, ?_, ?_⟩
  · rw [enumerates_collected model faults .typeRefs 0xffffffff {} hnumbered, hcollected]
    rfl
  · exact enumerates_collected {} uncounted .typeRefs 16 {} hnumbered

end Memory

end MetaParity
