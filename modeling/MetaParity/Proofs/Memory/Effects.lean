import MetaParity.Proofs.Memory.Usage

/-! # Every use of a handle is accounted for

However the sessions of a dispenser are misused, their handles and the statistics that they share are told by what was
called and answered. -/

namespace MetaParity

def Call.account (faults : Memory.FaultPlan) (opened : List Handle) (call : Call) (stats : Memory.Stats) :
    Memory.Stats where
  opened := stats.opened + (call.opens opened).toNat
  closed := stats.closed + (call.closesOpen opened).toNat
  doubleCloses := stats.doubleCloses + (call.closesUnknown opened).toNat
  unknownHandleCalls := stats.unknownHandleCalls + (call.asksUnknown faults opened).toNat
  resets := stats.resets + (call.resetsOpen faults opened).toNat

theorem Call.length_openAfter {call : Call} {opened : List Handle} {new : Handle}
    (hcreated : call.created? = if call.opens opened then some new else none) :
    (call.openAfter opened).length + (call.closesOpen opened).toNat = opened.length + (call.opens opened).toNat := by
  rw [openAfter, hcreated]
  cases call with
  | page handle query capacity reply => cases hopened : handle.isOpened <;> simp [closed?, hopened]
  | count handle answer => rfl
  | reset handle position answer => rfl
  | close handle =>
      by_cases hopen : handle ∈ opened
      · have hpos := List.length_pos_of_mem hopen
        simp [closed?, hopen, List.length_erase_of_mem hopen]
        omega
      · simp [closed?, hopen, List.erase_of_not_mem hopen]
  | signature token answer => rfl

namespace Memory

variable {model : Model} {faults : FaultPlan} {state state' : State}

/-! ## Handles of a table -/

namespace HandleTable

variable {table : HandleTable}

def handles (table : HandleTable) : List Handle :=
  table.keys.map Handle.mk

@[simp] theorem mem_handles {handle : Handle} : handle ∈ table.handles ↔ (table.get? handle).isSome := by
  rcases handle with ⟨id⟩
  simp [handles, isSome_get?]

theorem length_handles (table : HandleTable) : table.handles.length = table.size := by
  simp [handles, keys, size]

structure Sound (table : HandleTable) : Prop where
  keys_le : ∀ key ∈ table.keys, 0 < key ∧ key ≤ table.last
  keys_nodup : table.keys.Nodup

namespace Sound

theorem empty : ({} : HandleTable).Sound :=
  ⟨by simp [keys], List.nodup_nil⟩

theorem id_le (h : table.Sound) {handle : Handle} (hmem : handle ∈ table.handles) : handle.id ≤ table.last :=
  (h.keys_le handle.id ((table.isSome_get? handle).mp (mem_handles.mp hmem))).2

theorem add (h : table.Sound) (enumeration : Enumeration) : (table.add enumeration).2.Sound := by
  have hlast : (table.add enumeration).2.last = table.last + 1 := rfl
  constructor
  · intro key hkey
    rw [keys_add, List.mem_cons] at hkey
    rcases hkey with rfl | hkey
    · omega
    · have hle := h.keys_le key hkey
      omega
  · rw [keys_add, List.nodup_cons]
    refine ⟨?_, h.keys_nodup⟩
    intro hmem
    have hle := (h.keys_le _ hmem).2
    omega

theorem remove (h : table.Sound) (handle : Handle) : (table.remove handle).Sound := by
  constructor
  · intro key hkey
    rw [keys_remove, List.mem_filter] at hkey
    exact h.keys_le key hkey.1
  · rw [keys_remove]
    exact h.keys_nodup.filter _

theorem handles_remove (h : table.Sound) (handle : Handle) :
    (table.remove handle).handles = table.handles.erase handle := by
  have hnodup : table.handles.Nodup := h.keys_nodup.map fun _ _ heq => congrArg Handle.id heq
  rw [hnodup.erase_eq_filter, handles, keys_remove, handles, List.filter_map]
  congr 1
  apply List.filter_congr
  intro key _
  rcases handle with ⟨id⟩
  simp [bne, Bool.beq_eq_decide_eq]

end Sound

end HandleTable

/-! ## One call -/

structure State.SameBut (handle : Handle) (state state' : State) : Prop where
  stats_eq : state'.stats = state.stats
  last_eq : state'.table.last = state.table.last
  keys_eq : state'.table.keys = state.table.keys
  get?_eq : ∀ other ≠ handle, state'.table.get? other = state.table.get? other

namespace State.SameBut

variable {handle : Handle}

theorem self (handle : Handle) (state : State) : state.SameBut handle state :=
  ⟨rfl, rfl, rfl, fun _ _ => rfl⟩

theorem moved (handle : Handle) (position : Nat) (state : State) : state.SameBut handle (state.moved handle position) :=
  ⟨rfl, rfl, HandleTable.keys_move _ _ _, fun other hne => by rw [State.moved, HandleTable.get?_move, if_neg hne]⟩

theorem sound (h : state.SameBut handle state') (hsound : state.table.Sound) : state'.table.Sound :=
  ⟨by rw [h.keys_eq, h.last_eq]; exact hsound.keys_le, by rw [h.keys_eq]; exact hsound.keys_nodup⟩

theorem handles_eq (h : state.SameBut handle state') : state'.table.handles = state.table.handles := by
  rw [HandleTable.handles, h.keys_eq, HandleTable.handles]

end State.SameBut

/-- What a call does to a session: which handles are open, which handle is new, what is counted, and which enumerations
stay as they are. -/
structure Effect (faults : FaultPlan) (state : State) (call : Call) (state' : State) : Prop where
  sound : state'.table.Sound
  handles_eq : state'.table.handles = call.openAfter state.table.handles
  created_eq : call.created? = if call.opens state.table.handles then some ⟨state.table.last + 1⟩ else none
  last_eq : state'.table.last = state.table.last + (call.opens state.table.handles).toNat
  stats_eq : state'.stats = call.account faults state.table.handles state.stats
  /-- A call for a handle that is not open leaves all enumerations and the buffer as they are. -/
  missed : ∀ handle, call.used? = some handle → handle ∉ state.table.handles →
    state'.table = state.table ∧ call.written = []
  others : ∀ handle ∈ state.table.handles, call.used? ≠ some handle → state'.table.get? handle = state.table.get? handle

theorem Effect.size_eq {call : Call} (h : Effect faults state call state') :
    state'.table.size + (call.closesOpen state.table.handles).toNat =
      state.table.size + (call.opens state.table.handles).toNat := by
  rw [← HandleTable.length_handles, ← HandleTable.length_handles, h.handles_eq]
  exact Call.length_openAfter h.created_eq

theorem pageOf_open {handle : Handle} (hopen : handle ∈ state.table.handles) (faults : FaultPlan) (capacity : Nat) :
    (pageOf faults handle capacity state).1.handle = handle ∧
      state.SameBut handle (pageOf faults handle capacity state).2 := by
  obtain ⟨enumeration, hget⟩ := Option.isSome_iff_exists.mp (HandleTable.mem_handles.mp hopen)
  unfold pageOf
  rw [hget]
  dsimp only
  cases faults.paging.filter (·.1 = enumeration.kind) with
  | some fault => exact ⟨rfl, .self handle state⟩
  | none => exact ⟨rfl, .moved handle _ state⟩

theorem Effect.of_table_eq {call : Call} (hsound : state.table.Sound) (htable : state'.table = state.table)
    (hafter : call.openAfter state.table.handles = state.table.handles) (hcreated : call.created? = none)
    (hopens : call.opens state.table.handles = false) (hwritten : call.written = [])
    (hstats : state'.stats = call.account faults state.table.handles state.stats) :
    Effect faults state call state' where
  sound := htable ▸ hsound
  handles_eq := by rw [htable, hafter]
  created_eq := by rw [hcreated, hopens, if_neg Bool.false_ne_true]
  last_eq := by rw [htable, hopens, Bool.toNat_false, Nat.add_zero]
  stats_eq := hstats
  missed _ _ _ := ⟨htable, hwritten⟩
  others _ _ _ := by rw [htable]

section

variable (hsound : state.table.Sound)
include hsound

theorem effect_page_unopened (model : Model) (faults : FaultPlan) {handle : Handle} (hopened : handle.isOpened = false)
    (query : Query) (capacity : Nat) :
    Effect faults state (.page handle query capacity (page model faults handle query capacity state).1)
      (page model faults handle query capacity state).2 := by
  have hpage : page model faults handle query capacity state =
      pageOf faults ⟨state.table.last + 1⟩ capacity (state.created model query) := by
    rw [page, hopened, if_neg Bool.false_ne_true]
    rfl
  have hmem : ⟨state.table.last + 1⟩ ∈ (state.created model query).table.handles := List.mem_cons_self
  obtain ⟨hhandle, hsame⟩ := pageOf_open hmem faults capacity
  rw [hpage]
  revert hhandle hsame
  rcases pageOf faults ⟨state.table.last + 1⟩ capacity (state.created model query) with ⟨reply, state'⟩
  intro hhandle hsame
  have hopens : (Call.page handle query capacity reply).opens state.table.handles := by simp [hopened]
  have hcreated : (Call.page handle query capacity reply).created? = some ⟨state.table.last + 1⟩ := by
    rw [Call.created?, hopened, hhandle]
    rfl
  refine ⟨hsame.sound (hsound.add _), ?_, ?_, ?_, ?_, ?_, ?_⟩
  · rw [hsame.handles_eq, Call.openAfter, hcreated]
    rfl
  · rw [hcreated, if_pos hopens]
  · rw [hsame.last_eq, hopens]
    rfl
  · rw [hsame.stats_eq]
    simp [State.created, Call.account, hopened]
  · simp [Call.used?, hopened]
  · intro other hother _
    have hle := hsound.id_le hother
    have hne : other.id ≠ state.table.last + 1 := by omega
    rw [hsame.get?_eq other fun heq => hne (congrArg Handle.id heq)]
    exact HandleTable.get?_add_of_ne _ _ hne

theorem effect_page_opened (faults : FaultPlan) {handle : Handle} (hopened : handle.isOpened) (query : Query)
    (capacity : Nat) :
    Effect faults state (.page handle query capacity (pageOf faults handle capacity state).1)
      (pageOf faults handle capacity state).2 := by
  have hcreated (reply : PageReply) : (Call.page handle query capacity reply).created? = none := by
    rw [Call.created?, if_pos hopened]
  have hafter (reply : PageReply) :
      (Call.page handle query capacity reply).openAfter state.table.handles = state.table.handles := by
    rw [Call.openAfter, hcreated]
    rfl
  by_cases hopen : handle ∈ state.table.handles
  · have hsame := (pageOf_open hopen faults capacity).2
    refine ⟨hsame.sound hsound, ?_, ?_, ?_, ?_, ?_, ?_⟩
    · rw [hsame.handles_eq, hafter]
    · simp [hcreated, hopened]
    · simp [hsame.last_eq, hopened]
    · rw [hsame.stats_eq]
      simp [Call.account, hopened, HandleTable.mem_handles.mp hopen]
    · simp only [Call.used?, hopened, if_true, Option.some.injEq]
      rintro _ rfl hmissed
      exact absurd hopen hmissed
    · simp only [Call.used?, hopened, if_true, ne_eq, Option.some.injEq]
      intro other _ hne
      exact hsame.get?_eq other (Ne.symm hne)
  · have hget : state.table.get? handle = none := by
      rwa [HandleTable.mem_handles, Option.not_isSome_iff_eq_none] at hopen
    rw [pageOf, hget]
    refine .of_table_eq hsound rfl (hafter _) (hcreated _) (by simp [hopened]) rfl ?_
    simp [State.noteUnknown, Call.account, hopened, hget]

theorem effect_count (faults : FaultPlan) (handle : Handle) :
    Effect faults state (.count handle (count faults handle state).1) (count faults handle state).2 := by
  unfold count
  cases hget : state.table.get? handle with
  | none => exact .of_table_eq hsound rfl rfl rfl rfl rfl (by simp [State.noteUnknown, Call.account, hget])
  | some enumeration => exact .of_table_eq hsound rfl rfl rfl rfl rfl (by simp [Call.account, hget])

theorem effect_reset (faults : FaultPlan) (handle : Handle) (position : UInt32) :
    Effect faults state (.reset handle position (reset faults handle position state).1)
      (reset faults handle position state).2 := by
  unfold reset
  cases hfault : faults.reset with
  | some status => exact .of_table_eq hsound rfl rfl rfl rfl rfl (by simp [Call.account, hfault])
  | none =>
      dsimp only
      by_cases hopen : handle ∈ state.table.handles
      · have hsome := HandleTable.mem_handles.mp hopen
        have hsame := State.SameBut.moved handle position.toNat state
        rw [if_pos hsome]
        refine ⟨hsame.sound hsound, hsame.handles_eq, rfl, rfl, ?_, ?_, ?_⟩
        · simp [Call.account, hfault, hsome]
        · rintro _ ⟨⟩ hmissed
          exact absurd hopen hmissed
        · intro other _ hne
          exact hsame.get?_eq other fun heq => hne (congrArg some heq.symm)
      · have hnone : ¬ (state.table.get? handle).isSome := fun hsome => hopen (HandleTable.mem_handles.mpr hsome)
        rw [if_neg hnone]
        refine .of_table_eq hsound rfl rfl rfl rfl rfl ?_
        simp [State.noteUnknown, Call.account, hfault, hnone]

theorem effect_close (faults : FaultPlan) (handle : Handle) :
    Effect faults state (.close handle) (close handle state) := by
  unfold close
  by_cases hopen : handle ∈ state.table.handles
  · have hsome := HandleTable.mem_handles.mp hopen
    rw [if_pos hsome]
    refine ⟨hsound.remove handle, hsound.handles_remove handle, rfl, rfl, ?_, ?_, ?_⟩
    · simp [Call.account, hsome]
    · rintro _ ⟨⟩ hmissed
      exact absurd hopen hmissed
    · intro other _ hne
      exact HandleTable.get?_remove_of_ne _ fun heq => hne (congrArg some heq.symm)
  · have hnone : ¬ (state.table.get? handle).isSome := fun hsome => hopen (HandleTable.mem_handles.mpr hsome)
    rw [if_neg hnone]
    refine .of_table_eq hsound rfl (List.erase_of_not_mem hopen) rfl rfl rfl ?_
    simp [Call.account, hnone]

theorem effect_signature (model : Model) (faults : FaultPlan) (token : Token) :
    Effect faults state (.signature token (signature model faults token)) state :=
  .of_table_eq hsound rfl rfl rfl rfl rfl (by simp [Call.account])

/-- Every call on a session is accounted for. -/
theorem effect (model : Model) (faults : FaultPlan) (request : Request) :
    Effect faults state (request.run (session model faults) state).1
      (request.run (session model faults) state).2 := by
  cases request with
  | page handle query capacity =>
      cases hopened : handle.isOpened with
      | false => exact effect_page_unopened hsound model faults hopened query capacity
      | true =>
          have hpage : (session model faults).page handle query capacity state = pageOf faults handle capacity state :=
            if_pos hopened
          rw [Request.run, hpage]
          exact effect_page_opened hsound faults hopened query capacity
  | count handle => exact effect_count hsound faults handle
  | reset handle position => exact effect_reset hsound faults handle position
  | close handle => exact effect_close hsound faults handle
  | signature token => exact effect_signature hsound model faults token

end

end Memory

end MetaParity
