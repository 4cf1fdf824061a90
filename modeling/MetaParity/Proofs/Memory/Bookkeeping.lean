import MetaParity.Proofs.Memory.Effects

/-! # The books of a dispenser

The sessions of a dispenser share their statistics, whatever is called on any of them. -/

namespace MetaParity.Memory

variable {model : Model} {faults : FaultPlan}

/-! ## All sessions of a dispenser -/

/-- How handles were used, as the calls tell it. -/
def Log.stats (faults : FaultPlan) (log : Log) : Stats where
  opened := log.tally Call.opens
  closed := log.tally Call.closesOpen
  doubleCloses := log.tally Call.closesUnknown
  unknownHandleCalls := log.tally (Call.asksUnknown faults)
  resets := log.tally (Call.resetsOpen faults)

theorem Log.stats_concat (log : Log) (i : Nat) (call : Call) :
    Log.stats faults (log ++ [(i, call)]) = call.account faults (log.openIn i) (log.stats faults) := by
  simp [Log.stats, Call.account]

namespace DispenserState

def table (state : DispenserState) (i : Nat) : HandleTable :=
  state.tables.getD i {}

def openCount (state : DispenserState) : Nat :=
  state.tables.foldr (fun table count => table.size + count) 0

def extended (state : DispenserState) : DispenserState :=
  { state with tables := state.tables ++ [{}] }

@[simp] theorem table_extended (state : DispenserState) (i : Nat) : state.extended.table i = state.table i := by
  simp only [table, extended, List.getD_eq_getElem?_getD]
  rcases Nat.lt_trichotomy i state.tables.length with h | rfl | h
  · rw [List.getElem?_append_left h]
  · simp
  · rw [List.getElem?_eq_none (by simp; omega), List.getElem?_eq_none (Nat.le_of_lt h)]

@[simp] theorem openCount_extended (state : DispenserState) : state.extended.openCount = state.openCount := by
  simp [openCount, extended, HandleTable.size]

theorem table_set {state : DispenserState} {i : Nat} (h : i < state.tables.length) (inner : State) (j : Nat) :
    ((sessionPart i).put inner state).table j = if j = i then inner.table else state.table j := by
  by_cases hj : j = i
  · subst hj
    simp [table, sessionPart, h]
  · simp [table, sessionPart, hj, Ne.symm hj]

theorem tables_set_self {state : DispenserState} {i : Nat} (h : i < state.tables.length) {inner : State}
    (hinner : inner.table = state.table i) : ((sessionPart i).put inner state).tables = state.tables := by
  have hget : state.table i = state.tables[i] := by simp [table, h]
  simp only [sessionPart, hinner, hget, List.set_getElem_self]

theorem openCount_set {state : DispenserState} {i : Nat} (h : i < state.tables.length) (inner : State) :
    ((sessionPart i).put inner state).openCount + (state.table i).size = state.openCount + inner.table.size := by
  rcases state with ⟨stats, tables⟩
  simp only [openCount, table, sessionPart]
  induction tables generalizing i with
  | nil => exact absurd h (Nat.not_lt_zero i)
  | cons first rest ih =>
      cases i with
      | zero =>
          simp
          omega
      | succ i =>
          have hrest := ih (i := i) (Nat.lt_of_succ_lt_succ h)
          simp at hrest ⊢
          omega

end DispenserState

/-! ## One act -/

/-- Handles that were handed out one at a time, none twice and none after the last. -/
structure Issued (last : Nat) (handles : List Handle) : Prop where
  nodup : handles.Nodup
  id_le : ∀ handle ∈ handles, handle.id ≤ last

theorem Issued.append {last : Nat} {handles : List Handle} (h : Issued last handles) (opens : Bool) :
    Issued (last + opens.toNat) (handles ++ (if opens then some (Handle.mk (last + 1)) else none).toList) := by
  cases opens with
  | false => simpa using h
  | true =>
      constructor
      · simp only [if_true, Option.toList_some]
        refine h.nodup.append (List.nodup_singleton _) ?_
        intro handle hmem hnew
        have hle := h.id_le handle hmem
        obtain rfl := List.mem_singleton.mp hnew
        exact absurd hle (Nat.not_succ_le_self last)
      · intro handle hmem
        simp only [if_true, Option.toList_some, List.mem_append, List.mem_singleton] at hmem
        rcases hmem with hmem | rfl
        · exact Nat.le_succ_of_le (h.id_le handle hmem)
        · exact Nat.le_refl _

/-- A session holds the handles that its calls opened and did not close, and every handle that it handed out was new. -/
structure KeptIn (table : HandleTable) (log : Log) (i : Nat) : Prop where
  sound : table.Sound
  handles_eq : table.handles = log.openIn i
  issued : Issued table.last (log.handedOut i)

namespace KeptIn

variable {table : HandleTable} {log : Log} {i j : Nat} {call : Call}

theorem concat (h : KeptIn table log i) {stats : Stats} {inner : State}
    (heffect : Effect faults ⟨table, stats⟩ call inner) : KeptIn inner.table (log ++ [(i, call)]) i where
  sound := heffect.sound
  handles_eq := by
    rw [Log.openIn_concat_self, ← h.handles_eq]
    exact heffect.handles_eq
  issued := by
    rw [Log.handedOut_concat_self, heffect.created_eq, heffect.last_eq]
    exact h.issued.append _

theorem concat_of_ne (h : KeptIn table log j) (hne : i ≠ j) : KeptIn table (log ++ [(i, call)]) j where
  sound := h.sound
  handles_eq := by
    rw [Log.openIn_concat_of_ne _ _ _ hne]
    exact h.handles_eq
  issued := by
    rw [Log.handedOut_concat_of_ne _ _ _ hne]
    exact h.issued

end KeptIn

/-- The books are kept, in each session and in the statistics, which are those of all calls. -/
structure Kept (model : Model) (faults : FaultPlan) (usage : Usage DispenserState) : Prop where
  length_eq : usage.sessions.length = usage.state.tables.length
  session_eq : ∀ i session, usage.sessions[i]? = some session →
    session.toImport = ((Memory.session model faults).within (sessionPart i)).within .whole
  keptIn : ∀ i, KeptIn (usage.state.table i) usage.log i
  stats_eq : usage.state.stats = usage.log.stats faults
  opened_eq : usage.state.stats.opened = usage.state.stats.closed + usage.state.openCount

namespace Kept

variable {usage : Usage DispenserState}

theorem start : Kept model faults { state := {} } where
  length_eq := rfl
  session_eq _ _ h := by simp at h
  keptIn _ := ⟨.empty, rfl, List.nodup_nil, nofun⟩
  stats_eq := rfl
  opened_eq := rfl

theorem lt_length (h : Kept model faults usage) {i : Nat} {session : Session DispenserState}
    (hsession : usage.sessions[i]? = some session) : i < usage.state.tables.length := by
  rw [← h.length_eq]
  exact (List.getElem?_eq_some_iff.mp hsession).1

theorem exists_effect (h : Kept model faults usage) {i : Nat} {session : Session DispenserState}
    (hsession : usage.sessions[i]? = some session) (request : Request) :
    ∃ call inner, request.run session.toImport usage.state = (call, (sessionPart i).put inner usage.state) ∧
      Effect faults ⟨usage.state.table i, usage.state.stats⟩ call inner := by
  refine ⟨_, _, ?_, Memory.effect (h.keptIn i).sound model faults request⟩
  rw [h.session_eq i session hsession, Request.run_within, Request.run_within]
  rfl

theorem openScope (h : Kept model faults usage) (side : Side) (image : Bytes) :
    Kept model faults (usage.step (dispenser side model faults .whole) (.openScope image)) := by
  cases hfault : faults.opening with
  | some status => simpa only [Usage.step, dispenser, hfault] using h
  | none =>
      let opened := ((Memory.session model faults).within (sessionPart usage.state.tables.length)).within .whole
      let session : Session DispenserState := { opened with release := id }
      have hstep : usage.step (dispenser side model faults .whole) (.openScope image) =
          { usage with sessions := usage.sessions ++ [session], state := usage.state.extended } := by
        simp only [Usage.step, dispenser, hfault]
        rfl
      rw [hstep]
      exact {
        length_eq := by simp [DispenserState.extended, h.length_eq]
        session_eq := by
          intro i other hother
          rw [List.getElem?_append] at hother
          split at hother
          · exact h.session_eq i other hother
          · next hlength =>
              obtain ⟨hi, rfl⟩ := List.getElem?_eq_some_iff.mp hother
              have hindex : i = usage.state.tables.length := by
                rw [← h.length_eq]
                simp at hi
                omega
              simp [session, opened, hindex]
        keptIn := by simpa using h.keptIn
        stats_eq := h.stats_eq
        opened_eq := by
          rw [DispenserState.openCount_extended]
          exact h.opened_eq }

theorem call (h : Kept model faults usage) (dispenser : Dispenser DispenserState) (i : Nat) (request : Request) :
    Kept model faults (usage.step dispenser (.call i request)) := by
  cases hsession : usage.sessions[i]? with
  | none => rwa [Usage.step_call_of_none dispenser hsession]
  | some session =>
      obtain ⟨call, inner, hrun, heffect⟩ := h.exists_effect hsession request
      have hlt := h.lt_length hsession
      have htable := DispenserState.table_set hlt inner
      rw [Usage.step_call dispenser hsession, hrun]
      exact {
        length_eq := by simp [sessionPart, h.length_eq]
        session_eq := h.session_eq
        keptIn := by
          intro j
          rw [htable]
          split
          · next hj =>
              subst hj
              exact (h.keptIn j).concat heffect
          · next hj => exact (h.keptIn j).concat_of_ne (Ne.symm hj)
        stats_eq := by
          rw [Log.stats_concat, ← h.stats_eq, ← (h.keptIn i).handles_eq]
          exact heffect.stats_eq
        opened_eq := by
          have hopened := h.opened_eq
          have hcount := DispenserState.openCount_set hlt inner
          have hsize := heffect.size_eq
          have hput : ((sessionPart i).put inner usage.state).stats = inner.stats := rfl
          rw [hput, heffect.stats_eq]
          simp only [Call.account] at hsize ⊢
          omega }

/-- Whatever is done with a dispenser, its books are kept. -/
theorem run (side : Side) (model : Model) (faults : FaultPlan) (acts : List Act) :
    Kept model faults (Usage.run (dispenser side model faults .whole) {} acts) := by
  induction acts using List.reverseRecOn with
  | nil => exact start
  | append_singleton acts act ih =>
      rw [Usage.run, List.foldl_concat]
      cases act with
      | openScope image => exact openScope ih side image
      | call i request => exact call ih _ i request

end Kept

/-! ## Misuse -/

/-- Told by the calls alone, whatever they are: a session holds the handles that it handed out and that were not closed
since, the statistics count all calls, and no call touches the enumeration of another handle or session. -/
theorem misuse_accounted (side : Side) (model : Model) (faults : FaultPlan) (acts : List Act) :
    let usage := Usage.run (dispenser side model faults .whole) {} acts
    (∀ i, (usage.state.table i).handles = usage.log.openIn i) ∧
    usage.state.stats.opened = usage.state.stats.closed + usage.state.openCount ∧
    usage.state.stats = usage.log.stats faults ∧
    ∀ (i : Nat) (session : Session DispenserState) (request : Request), usage.sessions[i]? = some session →
      ∃ call state', request.run session.toImport usage.state = (call, state') ∧
        (∀ query capacity, request = .page .unopened query capacity →
          ∃ handle, call.created? = some handle ∧ handle ∉ usage.log.handedOut i) ∧
        (∀ handle, call.used? = some handle → handle ∉ usage.log.openIn i →
          state'.tables = usage.state.tables ∧ ∀ buffer : Buffer, buffer.write call.written = buffer) ∧
        ∀ j, ∀ handle ∈ usage.log.openIn j, (j = i → call.used? ≠ some handle) →
          (state'.table j).get? handle = (usage.state.table j).get? handle := by
  intro usage
  have h : Kept model faults usage := Kept.run side model faults acts
  refine ⟨fun i => (h.keptIn i).handles_eq, h.opened_eq, h.stats_eq, ?_⟩
  intro i session request hsession
  obtain ⟨call, inner, hrun, heffect⟩ := h.exists_effect hsession request
  have htable := DispenserState.table_set (h.lt_length hsession) inner
  refine ⟨call, _, hrun, ?_, ?_, ?_⟩
  · rintro query capacity rfl
    obtain ⟨reply, rfl⟩ := Request.eq_page_of_run hrun
    refine ⟨_, heffect.created_eq, ?_⟩
    intro hmem
    exact absurd ((h.keptIn i).issued.id_le _ hmem) (Nat.not_succ_le_self _)
  · intro handle hused hmissed
    rw [← (h.keptIn i).handles_eq] at hmissed
    obtain ⟨hinner, hwritten⟩ := heffect.missed handle hused hmissed
    refine ⟨?_, ?_⟩
    · exact DispenserState.tables_set_self (h.lt_length hsession) hinner
    · intro buffer
      simp [hwritten, Buffer.write]
  · intro j handle hopen hused
    rw [htable]
    split
    · next hj =>
        subst hj
        rw [← (h.keptIn j).handles_eq] at hopen
        exact heffect.others handle hopen (hused rfl)
    · rfl

/-- A session is called with the handles of another one, with one that nobody handed out, and with one that was closed.
-/
theorem misuse_accounted_forged :
    let faults : FaultPlan := { paging := some (.typeRefs, .fail) }
    let acts : List Act :=
      [.openScope [], .openScope [], .call 0 (.page .unopened .typeDefs 1), .call 1 (.count ⟨1⟩), .call 1 (.close ⟨1⟩),
        .call 1 (.page ⟨7⟩ .typeDefs 4), .call 0 (.reset ⟨1⟩ 0), .call 0 (.close ⟨1⟩), .call 0 (.reset ⟨1⟩ 0),
        .call 0 (.close ⟨1⟩), .call 1 (.count .unopened), .call 0 (.page .unopened .typeRefs 1)]
    ∃ usage, Usage.run (dispenser .baseline (Model.synthetic 2 0 0 0) faults .whole) {} acts = usage ∧
      usage.state.stats = { opened := 2, closed := 1, doubleCloses := 2, unknownHandleCalls := 4, resets := 1 } ∧
      usage.state.stats = usage.log.stats faults ∧
      usage.log.handedOut 0 = [⟨1⟩, ⟨2⟩] ∧ usage.log.openIn 0 = [⟨2⟩] ∧ usage.log.openIn 1 = [] ∧
      ∃ session call state', usage.sessions[1]? = some session ∧
        (Request.page ⟨2⟩ .typeRefs 3).run session.toImport usage.state = (call, state') ∧
        state'.tables = usage.state.tables ∧ ∀ buffer : Buffer, buffer.write call.written = buffer := by
  intro faults acts
  obtain ⟨-, -, hstats, hcall⟩ := misuse_accounted .baseline (Model.synthetic 2 0 0 0) faults acts
  obtain ⟨session, hsession⟩ : ∃ session,
      (Usage.run (dispenser .baseline (Model.synthetic 2 0 0 0) faults .whole) {} acts).sessions[1]? = some session :=
    Option.isSome_iff_exists.mp (by decide +kernel)
  obtain ⟨call, state', hrun, -, hmissed, -⟩ := hcall 1 session (.page ⟨2⟩ .typeRefs 3) hsession
  have hopen : (Usage.run (dispenser .baseline (Model.synthetic 2 0 0 0) faults .whole) {} acts).log.openIn 1 = [] := by
    decide +kernel
  have hused : call.used? = some ⟨2⟩ := by
    obtain ⟨reply, rfl⟩ := Request.eq_page_of_run hrun
    rfl
  obtain ⟨htables, hbuffer⟩ := hmissed ⟨2⟩ hused (by rw [hopen]; exact List.not_mem_nil)
  exact ⟨_, rfl, by decide +kernel, hstats, by decide +kernel, by decide +kernel, hopen, session, call, state', hsession,
    hrun, htables, hbuffer⟩

end MetaParity.Memory
