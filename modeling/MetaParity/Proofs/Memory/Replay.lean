import MetaParity.Model.Synthetic
import MetaParity.Proofs.Compare
import MetaParity.Proofs.Memory.Listing

/-! # Replays of two models

Two replays that list the same went alike, drain by drain, also where wrong counts led them astray. -/

namespace MetaParity

namespace Model

variable {model : Model} (faults : Memory.FaultPlan)

theorem exists_covers_replayUnder (hdistinct : ∀ type ∈ model.types.head?, type.members.Nodup) :
    ∃ members, (model.replayUnder faults).Covers members ∧ members.Nodup := by
  unfold replayUnder
  cases htypes : model.types with
  | nil =>
      have hitems : model.items .typeDefs = [] := by
        rw [items, htypes, List.map_nil]
      rw [hitems]
      exact ⟨[], ⟨rfl, .inl ⟨rfl, rfl⟩⟩, List.nodup_nil⟩
  | cons type types =>
      obtain ⟨hitems, hmembers⟩ := items_members_of_types htypes
      rw [hitems]
      dsimp only
      rw [hmembers]
      refine ⟨type.members, Replay.covers_ofCount .., hdistinct type ?_⟩
      rw [htypes]
      rfl

end Model

namespace Memory

theorem replay_skewed (model : Model) (htypes : model.types.length < 0x100000000) (skew : Option Int) (capacity : Nat)
    (side : Side) {state : State} (hstate : Idle state) :
    let faults : FaultPlan := { countSkew := skew.map (.members, ·) }
    let lister := Lister.of (session model faults) capacity
    (lister.replay.run state).1 = .ok (model.replayUnder faults) ∧
      ∀ strictReset : Bool, (strictReset → (model.replayUnder faults).check side = .ok ()) →
        ((Scenario.resetEnum.run lister side strictReset).run state).1 =
          .ok (.tokens (model.replayUnder faults).tokens) := by
  intro faults lister
  have hskew : Iterator.skew faults ⟨.typeDefs, none⟩ = 0 := by
    cases skew <;> rfl
  have hfailure : Visit.failure? model faults ⟨.typeDefs, true⟩ = none :=
    Visit.failure?_eq_none rfl hskew fun _ => by simpa [Model.items] using htypes
  have hsettle : ∀ {α : Type} (a : α), settle model faults (model.scenarioVisits .resetEnum) a = .ok a := by
    intro α a
    have hfirst : (model.scenarioVisits .resetEnum).findSome? (·.failure? model faults) = none := by
      refine List.findSome?_eq_none_iff.mpr fun visit hmem => ?_
      rcases List.mem_cons.mp hmem with rfl | hmem
      · exact hfailure
      · obtain ⟨scope, -, rfl⟩ := List.mem_map.mp hmem
        exact failure?_uncounted _
    unfold settle
    rw [hfirst]
  have hreplay := yields_replay model (skew.map (.members, ·)) capacity state hstate
  refine ⟨?_, fun strictReset hcheck => ?_⟩
  · rw [hreplay.1, hsettle]
    rfl
  · have hlisting := yields_resetEnum model (skew.map (.members, ·)) capacity side strictReset state hstate
    rw [hlisting.1, Model.listingUnder, hsettle]
    cases strictReset with
    | false => rfl
    | true =>
        have hunchecked : model.uncheckedListing faults side true .resetEnum =
            .ok (.tokens (model.replayUnder faults).tokens) := by
          rw [Model.uncheckedListing, if_pos rfl, hcheck rfl]
          rfl
        exact congrArg (Except.mapError Stop.failed) hunchecked

/-- Replays of members that are pairwise distinct list the same if and only if each of their three drains does, whatever
is wrong with either count. -/
theorem replays_compare (baseline current : Model) (hbaseline : baseline.types.length < 0x100000000)
    (hcurrent : current.types.length < 0x100000000)
    (hdistinct : ∀ type ∈ baseline.types.head?, type.members.Nodup)
    (hdistinct' : ∀ type ∈ current.types.head?, type.members.Nodup) (skew skew' : Option Int)
    (capacity capacity' context : Nat) (state state' : State) (hstate : Idle state) (hstate' : Idle state') :
    let lister := Lister.of (session baseline { countSkew := skew.map (.members, ·) }) capacity
    let lister' := Lister.of (session current { countSkew := skew'.map (.members, ·) }) capacity'
    ∃ replay replay' : Replay,
      (lister.replay.run state).1 = .ok replay ∧ (lister'.replay.run state').1 = .ok replay' ∧
      (∀ strictReset : Bool, (strictReset → replay.check .baseline = .ok ()) →
        ((Scenario.resetEnum.run lister .baseline strictReset).run state).1 = .ok (.tokens replay.tokens)) ∧
      (∀ strictReset : Bool, (strictReset → replay'.check .current = .ok ()) →
        ((Scenario.resetEnum.run lister' .current strictReset).run state').1 = .ok (.tokens replay'.tokens)) ∧
      ((Listing.tokens replay.tokens).compare context .resetEnum (.tokens replay'.tokens) = none ↔
        replay.first = replay'.first ∧ replay.afterTailReset = replay'.afterTailReset ∧
          replay.afterFullReset = replay'.afterFullReset) := by
  intro lister lister'
  obtain ⟨hreplay, hlisting⟩ := replay_skewed baseline hbaseline skew capacity .baseline hstate
  obtain ⟨hreplay', hlisting'⟩ := replay_skewed current hcurrent skew' capacity' .current hstate'
  obtain ⟨members, hcovers, hnodup⟩ := Model.exists_covers_replayUnder
    { countSkew := skew.map (.members, ·) } hdistinct
  obtain ⟨members', hcovers', hnodup'⟩ := Model.exists_covers_replayUnder
    { countSkew := skew'.map (.members, ·) } hdistinct'
  refine ⟨_, _, hreplay, hreplay', hlisting, hlisting', ?_⟩
  rw [Listing.compare_tokens_eq_none_iff]
  exact Replay.tokens_eq_iff hcovers hcovers' hnodup hnodup'

/-- Counts that are one and five too high both find nothing to replay at the tail, and list the same. -/
theorem replays_compare_beyond :
    let model := Model.synthetic 2 2 1 2
    let members : List Token := [⟨0x06000001⟩, ⟨0x06000002⟩, ⟨0x04000001⟩, ⟨0x04000002⟩]
    let lister := Lister.of (session model { countSkew := some (.members, 1) }) 1
    let lister' := Lister.of (session model { countSkew := some (.members, 5) }) 3
    let replay : Replay := { scope := some ⟨0x02000002⟩, first := members, count := 5, afterFullReset := members }
    let replay' : Replay := { replay with count := 9 }
    model.types.length < 0x100000000 ∧ (∀ type ∈ model.types.head?, type.members.Nodup) ∧ Idle {} ∧
    (lister.replay.run {}).1 = .ok replay ∧ (lister'.replay.run {}).1 = .ok replay' ∧
    (Listing.tokens replay.tokens).compare 3 .resetEnum (.tokens replay'.tokens) = none := by
  intro model members lister lister' replay replay'
  have htypes : model.types.length < 0x100000000 := by decide
  have hdistinct : ∀ type ∈ model.types.head?, type.members.Nodup := by decide
  have hidle : Idle {} := rfl
  obtain ⟨found, found', hfound, hfound', -, -, hcompare⟩ :=
    replays_compare model model htypes htypes hdistinct hdistinct (some 1) (some 5) 1 3 3 {} {} hidle hidle
  have hreplay : (lister.replay.run {}).1.toOption = some replay := by
    decide +kernel
  have hreplay' : (lister'.replay.run {}).1.toOption = some replay' := by
    decide +kernel
  have heq : found = replay := Option.some.inj ((congrArg Except.toOption hfound).symm.trans hreplay)
  have heq' : found' = replay' := Option.some.inj ((congrArg Except.toOption hfound').symm.trans hreplay')
  rw [heq] at hfound hcompare
  rw [heq'] at hfound' hcompare
  exact ⟨htypes, hdistinct, hidle, hfound, hfound', hcompare.mpr ⟨rfl, rfl, rfl⟩⟩

end Memory

end MetaParity
