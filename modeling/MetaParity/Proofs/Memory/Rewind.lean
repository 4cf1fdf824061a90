import MetaParity.Proofs.Memory.Collect
import MetaParity.Proofs.Memory.Listing

/-! # Replays and their resets

What a replay observes of a session that miscounts members, how it uses the one handle that it drains them through, and
when a check of it on one side alone succeeds. -/

namespace MetaParity

theorem CursorDrive.run_reset {σ : Type} (session : Import σ) (offset : UInt32) (cursor : Cursor) (s : σ) :
    (CursorDrive.reset session offset).run (cursor, s) =
      ((cursor.reset session offset s).1.mapError .failed, cursor, (cursor.reset session offset s).2) := rfl

namespace Memory

variable {model : Model} {faults : FaultPlan} {query : Query}

/-! ## One cursor -/

/-- A session in which a new enumeration of the query was moved to a position, after so many resets of it. -/
def State.rewound (model : Model) (query : Query) (state : State) (position resets : Nat) : State :=
  { (state.created model query).moved ⟨state.table.last + 1⟩ position with
    stats := { (state.created model query).stats with resets := state.stats.resets + resets } }

theorem openAt_rewound (query : Query) (state : State) (position resets : Nat) :
    OpenAt model ⟨query, ⟨state.table.last + 1⟩⟩ (state.rewound model query position resets) position :=
  have hmoved : OpenAt model _ _ position := (OpenAt.created query state).moved position
  ⟨hmoved.isOpened, hmoved.get?_eq⟩

theorem State.moved_rewound (state : State) (position next resets : Nat) :
    (state.rewound model query position resets).moved ⟨state.table.last + 1⟩ next =
      state.rewound model query next resets := by
  simp only [State.rewound, State.moved, HandleTable.move_move]

section

variable (state : State) (position resets : Nat)

theorem run_drain_new (hoverrun : ¬Overruns model faults query) (hfault : Iterator.fault? faults ⟨query, none⟩ = none)
    (capacity : Nat) :
    (CursorDrive.drain (session model faults) capacity).run (⟨query, .unopened⟩, state) =
      (.ok (model.items query), ⟨query, ⟨state.table.last + 1⟩⟩,
        state.rewound model query (model.items query).length 0) := by
  have hopen : OpenAt model _ _ 0 := .created query state
  rw [CursorDrive.run_drain, drain_unopened, hopen.drain hoverrun, hfault, Nat.zero_max]
  rfl

theorem run_drain_rewound (hoverrun : ¬Overruns model faults query)
    (hfault : Iterator.fault? faults ⟨query, none⟩ = none) (capacity : Nat) :
    (CursorDrive.drain (session model faults) capacity).run
        (⟨query, ⟨state.table.last + 1⟩⟩, state.rewound model query position resets) =
      (.ok ((model.items query).drop position), ⟨query, ⟨state.table.last + 1⟩⟩,
        state.rewound model query (max position (model.items query).length) resets) := by
  have hopen : OpenAt model _ _ position := openAt_rewound query state position resets
  rw [CursorDrive.run_drain, hopen.drain hoverrun, hfault, State.moved_rewound]
  rfl

theorem run_reset_rewound (hreset : faults.reset = none) (offset : UInt32) :
    (CursorDrive.reset (session model faults) offset).run
        (⟨query, ⟨state.table.last + 1⟩⟩, state.rewound model query position resets) =
      (.ok (), ⟨query, ⟨state.table.last + 1⟩⟩, state.rewound model query offset.toNat (resets + 1)) := by
  have hopen : OpenAt model _ _ position := openAt_rewound query state position resets
  rw [CursorDrive.run_reset, hopen.reset, hreset]
  dsimp only
  rw [State.moved_rewound]
  rfl

theorem run_reset_rewound_of_failing {status : Status} (hreset : faults.reset = some status) (offset : UInt32) :
    (CursorDrive.reset (session model faults) offset).run
        (⟨query, ⟨state.table.last + 1⟩⟩, state.rewound model query position resets) =
      (.error (.failed (.resetFailed query offset.toNat status)), ⟨query, ⟨state.table.last + 1⟩⟩,
        state.rewound model query position resets) := by
  have hopen : OpenAt model _ _ position := openAt_rewound query state position resets
  rw [CursorDrive.run_reset, hopen.reset, hreset]
  rfl

/-! ## Replays -/

/-- A replay produces what the reported count makes of the items, with two resets unless that count is zero. -/
theorem run_replayMembers {scope : Token} (hoverrun : ¬Overruns model faults (.members scope))
    (hfault : Iterator.fault? faults ⟨.members scope, none⟩ = none)
    (hreset : faults.reset = none ∨ faults.reported model (.members scope) = 0) (capacity : Nat) :
    let count := faults.reported model (.members scope)
    (CursorDrive.replayMembers (session model faults) capacity scope).run (⟨.members scope, .unopened⟩, state) =
      (.ok (.ofCount scope (model.items (.members scope)) count), ⟨.members scope, ⟨state.table.last + 1⟩⟩,
        state.rewound model (.members scope) (model.items (.members scope)).length (if count = 0 then 0 else 2)) := by
  intro count
  let cursor : Cursor := ⟨.members scope, ⟨state.table.last + 1⟩⟩
  let items := model.items (.members scope)
  have hcount : (CursorDrive.count (session model faults)).run
      (cursor, state.rewound model (.members scope) items.length 0) =
        (.ok count, cursor, state.rewound model (.members scope) items.length 0) :=
    (openAt_rewound (.members scope) state items.length 0).run_count faults
  unfold CursorDrive.replayMembers
  rw [Drive.run_bind_of_ok (run_drain_new state hoverrun hfault capacity), Drive.run_bind_of_ok hcount]
  by_cases hzero : count = 0
  · rw [if_pos hzero, if_pos hzero, Replay.ofCount, if_pos hzero]
    rfl
  · have hworks := hreset.resolve_right hzero
    have hdrain (position resets : Nat) := run_drain_rewound state position resets hoverrun hfault capacity
    rw [if_neg hzero, if_neg hzero, Replay.ofCount, if_neg hzero,
      Drive.run_bind_of_ok (run_reset_rewound state _ _ hworks (count - 1)), Drive.run_bind_of_ok (hdrain _ _),
      Drive.run_bind_of_ok (run_reset_rewound state _ _ hworks 0), Drive.run_bind_of_ok (hdrain _ _),
      UInt32.toNat_zero, Nat.zero_max, List.drop_zero]
    rfl

theorem run_replayMembers_of_failing {scope : Token} (hoverrun : ¬Overruns model faults (.members scope))
    (hfault : Iterator.fault? faults ⟨.members scope, none⟩ = none) {status : Status}
    (hreset : faults.reset = some status) (hcount : faults.reported model (.members scope) ≠ 0) (capacity : Nat) :
    (CursorDrive.replayMembers (session model faults) capacity scope).run (⟨.members scope, .unopened⟩, state) =
      (.error (.failed (.resetFailed (.members scope) (faults.reported model (.members scope) - 1).toNat status)),
        ⟨.members scope, ⟨state.table.last + 1⟩⟩,
        state.rewound model (.members scope) (model.items (.members scope)).length 0) := by
  let cursor : Cursor := ⟨.members scope, ⟨state.table.last + 1⟩⟩
  let items := model.items (.members scope)
  have hcounted : (CursorDrive.count (session model faults)).run
      (cursor, state.rewound model (.members scope) items.length 0) =
        (.ok (faults.reported model (.members scope)), cursor, state.rewound model (.members scope) items.length 0) :=
    (openAt_rewound (.members scope) state items.length 0).run_count faults
  unfold CursorDrive.replayMembers
  rw [Drive.run_bind_of_ok (run_drain_new state hoverrun hfault capacity), Drive.run_bind_of_ok hcounted, if_neg hcount,
    Drive.run_bind_of_error (run_reset_rewound_of_failing state _ _ hreset _)]

end

/-- A session after a replay: the types were enumerated, and the members through one more handle that was reset so many
times. -/
def State.replayed (state : State) (resets : Nat) : State :=
  { state.enumerated 2 with stats := { (state.enumerated 2).stats with resets := state.stats.resets + resets } }

theorem run_replay {state : State} (hstate : state.Numbered) {type : TypeDef} {types : List TypeDef}
    (htypes : model.types = type :: types) (htyped : Visit.failure? model faults ⟨.typeDefs, true⟩ = none)
    (hoverrun : faults.pageOverrun = none) {capacity position resets : Nat} {answer : Except Stop Replay}
    (h : (CursorDrive.replayMembers (session model faults) (max capacity 1) type.token).run
      (⟨.members type.token, .unopened⟩, state.enumerated 1) =
        (answer, ⟨.members type.token, ⟨(state.enumerated 1).table.last + 1⟩⟩,
          (state.enumerated 1).rewound model (.members type.token) position resets)) :
    (Lister.of (session model faults) capacity).replay.run state = (answer, state.replayed resets) := by
  have hitems : model.items .typeDefs = type.token :: types.map (·.token) := (Model.items_members_of_types htypes).1
  have htypeDefs : ¬Overruns model faults .typeDefs := not_overruns hoverrun .typeDefs
  have hcollect := enumerates_collect htypeDefs capacity state hstate
  rw [Visit.answer, htyped] at hcollect
  dsimp only at hcollect
  rw [hitems] at hcollect
  rw [Lister.replay_eq, Drive.run_bind_of_ok hcollect]
  exact run_onCursor_created (hstate.enumerated 1) h

/-- A replay drains the members of the first type and then as many of them again as the reported number makes it,
through one handle. It passes its check if and only if that number is zero or right. -/
theorem replay_miscounted (model : Model) {type : TypeDef} {types : List TypeDef} (htypes : model.types = type :: types)
    (hlength : model.types.length < 0x100000000) (skew : Option Int) (failing : Option Status) (capacity : Nat)
    (requests : List Request) :
    let faults : FaultPlan := { countSkew := skew.map (.members, ·), reset := failing }
    let state := State.after model faults requests
    let run := (Lister.of (session model faults) capacity).replay.run state
    let members := type.members
    let count := min (members.length + skew.getD 0).toNat 0xffffffff
    (failing = none ∨ count = 0 → ∃ replay : Replay,
      run = (.ok replay, state.replayed (if count = 0 then 0 else 2)) ∧
      replay.scope = some type.token ∧ replay.first = members ∧ replay.count.toNat = count ∧
      (count = 0 → replay.afterTailReset = [] ∧ replay.afterFullReset = []) ∧
      (count ≠ 0 → replay.afterTailReset = members.drop (count - 1) ∧ replay.afterFullReset = members) ∧
      (members.length < count → replay.afterTailReset = []) ∧
      ∀ side, replay.check side = .ok () ↔ count = 0 ∨ count = members.length) ∧
    ∀ status, failing = some status → count ≠ 0 →
      run = (.error (.failed (.resetFailed (.members type.token) (count - 1) status)), state.replayed 0) := by
  intro faults state run members count
  have hstate : state.Numbered := State.numbered_after model faults requests
  have hmembers : model.items (.members type.token) = members := (Model.items_members_of_types htypes).2
  -- The types are counted as they are, so only the replay of the members can go wrong.
  have htyped : Visit.failure? model faults ⟨.typeDefs, true⟩ = none := by
    refine Visit.failure?_eq_none rfl ?_ fun _ => ?_
    · cases skew <;> rfl
    · rwa [Model.items, List.length_map]
  have hcount : (faults.reported model (.members type.token)).toNat = count := by
    have hskew : Iterator.skew faults ⟨.members type.token, none⟩ = skew.getD 0 := by
      cases skew <;> rfl
    rw [FaultPlan.reported, toNat_clampCount, hmembers, hskew]
  have hzero : faults.reported model (.members type.token) = 0 ↔ count = 0 := by
    rw [← hcount, ← UInt32.toNat_inj, UInt32.toNat_zero]
  have hoverrun : ¬Overruns model faults (.members type.token) := not_overruns rfl _
  constructor
  · intro hworks
    have hreplay := run_replayMembers (state.enumerated 1) hoverrun rfl (hworks.imp_right hzero.mpr) (max capacity 1)
    dsimp only at hreplay
    rw [hmembers] at hreplay
    refine ⟨.ofCount type.token members (faults.reported model (.members type.token)), ?_, ?_⟩
    · simpa only [hzero] using run_replay hstate htypes htyped rfl hreplay
    · simp only [Replay.scope_ofCount, Replay.first_ofCount, Replay.count_ofCount, Replay.afterTailReset_ofCount,
        Replay.afterFullReset_ofCount, Replay.check_ofCount_eq_ok_iff, hcount, hzero]
      refine ⟨trivial, trivial, trivial, fun h => ?_, fun h => ?_, fun h => ?_, fun _ => trivial⟩
      · rw [if_pos h, if_pos h]
        exact ⟨rfl, rfl⟩
      · rw [if_neg h, if_neg h]
        exact ⟨rfl, rfl⟩
      · rw [if_neg (by omega)]
        exact List.drop_eq_nil_of_le (by omega)
  · intro status hfailing hpos
    have hreplay := run_replayMembers_of_failing (state.enumerated 1) hoverrun rfl hfailing
      (fun h => hpos (hzero.mp h)) (max capacity 1)
    rw [(Replay.toNat_sub_one fun h => hpos (hzero.mp h)).1, hcount] at hreplay
    exact run_replay hstate htypes htyped rfl hreplay

/-- One member is missed in the count of four, while another enumeration is under way, so the last two are replayed for
the last one. -/
theorem replay_miscounted_short :
    let model := Model.synthetic 2 2 1 2
    let members : List Token := [⟨0x06000001⟩, ⟨0x06000002⟩, ⟨0x04000001⟩, ⟨0x04000002⟩]
    let faults := fun (failing : Option Status) => ({ countSkew := some (.members, -1), reset := failing } : FaultPlan)
    let state := fun failing => State.after model (faults failing) [.page .unopened .userStrings 1]
    let run := fun failing => (Lister.of (session model (faults failing)) 3).replay.run (state failing)
    (∃ replay : Replay, run none = (.ok replay, (state none).replayed 2) ∧ replay.first = members ∧
      replay.afterTailReset = members.drop 2 ∧ replay.afterFullReset = members ∧
      ∀ side, replay.check side ≠ .ok ()) ∧
    run (some .fail) =
      (.error (.failed (.resetFailed (.members ⟨0x02000002⟩) 2 .fail)), (state (some .fail)).replayed 0) := by
  intro model members faults state run
  have htypes : model.types = model.types.head (by decide) :: model.types.tail := (List.cons_head_tail _).symm
  have hmembers : (model.types.head (by decide)).members = members := by decide
  have htoken : (model.types.head (by decide)).token = ⟨0x02000002⟩ := by decide
  have hreplay := fun failing =>
    replay_miscounted model htypes (by decide) (some (-1)) failing 3 [.page .unopened .userStrings 1]
  dsimp only at hreplay
  simp only [hmembers, htoken] at hreplay
  obtain ⟨replay, hrun, -, hfirst, -, -, hdrains, -, hcheck⟩ := (hreplay none).1 (.inl rfl)
  obtain ⟨htail, hfull⟩ := hdrains (by decide)
  refine ⟨⟨replay, hrun, hfirst, htail, hfull, fun side hpasses => ?_⟩, (hreplay (some .fail)).2 .fail rfl (by decide)⟩
  exact absurd ((hcheck side).mp hpasses) (by decide)

end Memory

end MetaParity
