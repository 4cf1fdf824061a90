import MetaParity.Proofs.Memory.Coherence
import MetaParity.Proofs.Memory.Compose
import MetaParity.Proofs.Replay
import MetaParity.Proofs.Yields

/-! # Scenarios on in-memory sessions

A session whose only fault is a wrong count yields the listings of its model up to the first enumeration that notices:
whatever the page size, and from any state that holds no handles to one that holds none. -/

namespace MetaParity

/-! ## What a session with wrong counts lists -/

namespace Memory

abbrev FaultPlan.skewed (skew : Option (Kind × Int)) : FaultPlan :=
  { countSkew := skew }

def FaultPlan.reported (faults : FaultPlan) (model : Model) (query : Query) : UInt32 :=
  clampCount ((model.items query).length + Iterator.skew faults ⟨query, none⟩)

end Memory

namespace Model

variable (model : Model) (faults : Memory.FaultPlan)

/-- What a replay over the model produces: that of the members of the first type, by the count reported for them. -/
def replayUnder : Replay :=
  match model.items .typeDefs with
  | [] => {}
  | scope :: _ => .ofCount scope (model.items (.members scope)) (faults.reported model (.members scope))

def scenarioVisits : Scenario → List Visit
  | .typeDefs => [⟨.typeDefs, true⟩]
  | .typeRefs => [⟨.typeRefs, true⟩]
  | .typeSpecs => [⟨.typeSpecs, true⟩]
  | .moduleRefs => [⟨.moduleRefs, true⟩]
  | .signatures | .sigFromToken | .signatureBlobs => [⟨.signatures, true⟩]
  | .userStrings => [⟨.userStrings, true⟩]
  | .typeHierarchy => model.visits .typeDefs Walk.typeHierarchy
  | .members => model.visits .typeDefs Walk.members
  | .propertiesEvents => model.visits .typeDefs Walk.propertiesEvents
  | .resetEnum => ⟨.typeDefs, true⟩ :: ((model.items .typeDefs).take 1).map fun scope => ⟨.members scope, false⟩

def uncheckedListing (side : Side) (strictReset : Bool) : Scenario → Except Failure Listing
  | .resetEnum => do
    if strictReset then (model.replayUnder faults).check side
    return .tokens (model.replayUnder faults).tokens
  | scenario => model.listing scenario

/-- What a scenario yields: the failure of the first of its enumerations that fails, and its listing if there is none. -/
def listingUnder (side : Side) (strictReset : Bool) (scenario : Scenario) : Except Failure Listing := do
  Memory.settle model faults (model.scenarioVisits scenario) ()
  model.uncheckedListing faults side strictReset scenario

end Model

namespace Memory

variable {model : Model} {skew : Option (Kind × Int)}

/-! ## One cursor -/

def Idle (state : State) : Prop :=
  state.table.entries = []

def At (model : Model) (iterator : Iterator) (use : Cursor × State) : Prop :=
  ∃ start, Coherent model (fun _ : Unit => use.1) (fun _ => iterator) start use.2

private theorem update_unit {α : Type} (a b : α) : Function.update (fun _ : Unit => a) () b = fun _ => b :=
  funext fun _ => Function.update_self ..

theorem yields_drain (capacity : Nat) (iterator : Iterator) :
    Drive.Yields (At model iterator) (CursorDrive.drain (session model (.skewed skew)) capacity)
      (.ok (iterator.rest model)) (At model (iterator.advance (iterator.rest model).length)) := by
  rintro ⟨cursor, state⟩ ⟨start, hcoherent⟩
  have hoverrun : (FaultPlan.skewed skew).pageOverrun = none := rfl
  obtain ⟨cursor', state', hdrain, hcoherent⟩ := hcoherent.drain hoverrun () capacity
  rw [update_unit, update_unit] at hcoherent
  rw [CursorDrive.run_drain, hdrain]
  exact ⟨rfl, start, hcoherent⟩

theorem yields_count (iterator : Iterator) :
    Drive.Yields (At model iterator) (CursorDrive.count (session model (.skewed skew)))
      (.ok (iterator.count model (.skewed skew))) (At model iterator) := by
  refine Drive.yields_ofExcept ?_
  rintro ⟨cursor, state⟩ ⟨start, hcoherent⟩
  dsimp only at hcoherent ⊢
  rw [hcoherent.count (.skewed skew) ()]
  exact ⟨rfl, start, hcoherent⟩

theorem yields_reset (iterator : Iterator) {position : Nat} (hposition : iterator.position = some position)
    (offset : UInt32) :
    Drive.Yields (At model iterator) (CursorDrive.reset (session model (.skewed skew)) offset) (.ok ())
      (At model { iterator with position := some offset.toNat }) := by
  refine Drive.yields_ofExcept ?_
  rintro ⟨cursor, state⟩ ⟨start, hcoherent⟩
  dsimp only at hcoherent ⊢
  obtain ⟨state', hreset, hcoherent⟩ := hcoherent.reset (.skewed skew) () offset
  rw [update_unit] at hcoherent
  rw [hreset]
  simp only [Iterator.reset, hposition] at hcoherent ⊢
  exact ⟨trivial, start, hcoherent⟩

theorem yields_onCursor {α : Type} {query : Query} {body : CursorDrive State α} {answer : Except Failure α}
    (iterator : Iterator) (h : Drive.Yields (At model ⟨query, none⟩) body answer (At model iterator)) :
    Drive.Yields Idle (Drive.onCursor (session model (.skewed skew)) query body) answer Idle := by
  refine Drive.yields_onCursor ?_ h ?_
  · exact fun state hidle => ⟨state.stats, Coherent.fresh (fun _ => query) state hidle⟩
  · rintro cursor state ⟨start, hcoherent⟩
    have hclosed := hcoherent.close (.skewed skew) ()
    rw [update_unit, update_unit] at hclosed
    exact (hclosed.all_closed fun _ => rfl).1

/-! ## Enumerations -/

theorem Enumerates.yields {α : Type} {m : Drive State α} {answer : Except Failure α} {count : Nat}
    (h : Enumerates m answer count) : Drive.Yields Idle m answer Idle := by
  intro state hidle
  rw [h state (State.numbered_of_entries hidle)]
  exact ⟨rfl, hidle⟩

theorem Follows.yields {α : Type} {m : Drive State α} {faults : FaultPlan} {visits : List Visit} {a : α}
    (h : Follows model faults m visits a) : Drive.Yields Idle m (settle model faults visits a) Idle := by
  obtain ⟨count, henumerates⟩ := h.exists_enumerates
  exact henumerates.yields

/-! ## Visits that settle an answer -/

section

variable {α β : Type} {faults : FaultPlan} {visit : Visit} {visits : List Visit}

theorem settle_nil (a : α) : settle model faults [] a = .ok a := rfl

theorem settle_cons_of_none (h : visit.failure? model faults = none) (visits : List Visit) (a : α) :
    settle model faults (visit :: visits) a = settle model faults visits a := by
  unfold settle
  rw [List.findSome?_cons, h]

theorem settle_cons_of_some {failure : Failure} (h : visit.failure? model faults = some failure) (visits : List Visit)
    (a : α) : settle model faults (visit :: visits) a = .error failure := by
  unfold settle
  rw [List.findSome?_cons, h]

theorem settle_bind (a : α) (f : α → Except Failure β) :
    settle model faults visits a >>= f = settle model faults visits () >>= fun _ => f a := by
  unfold settle
  cases visits.findSome? (·.failure? model faults) <;> rfl

theorem settle_map (a : α) (f : α → β) :
    f <$> settle model faults visits a = settle model faults visits () >>= fun _ => .ok (f a) := by
  rw [map_eq_pure_bind, settle_bind]
  rfl

theorem eq_of_settle_eq_ok {a b : α} (h : settle model faults visits a = .ok b) : a = b := by
  unfold settle at h
  cases hfirst : visits.findSome? (·.failure? model faults) with
  | none =>
      rw [hfirst] at h
      exact Except.ok.inj h
  | some failure =>
      rw [hfirst] at h
      cases h

/-- Only a wrong count can fail an enumeration, and nobody asks for that of an uncounted one. -/
theorem failure?_uncounted (query : Query) : Visit.failure? model (.skewed skew) ⟨query, false⟩ = none := by
  have hfault : Iterator.fault? (.skewed skew) ⟨query, none⟩ = none := rfl
  simp [Visit.failure?, hfault]

end

section

variable (model : Model) (skew : Option (Kind × Int)) (capacity : Nat)

abbrev lister : Lister State :=
  .of (session model (.skewed skew)) capacity

theorem yields_collect (query : Query) :
    Drive.Yields Idle ((lister model skew capacity).collect query)
      (settle model (.skewed skew) [⟨query, true⟩] (model.items query)) Idle :=
  (follows_enumerate model rfl capacity ⟨query, true⟩).yields

theorem yields_compose (walks : List Walk) :
    Drive.Yields Idle ((lister model skew capacity).compose .typeDefs walks)
      (settle model (.skewed skew) (model.visits .typeDefs walks) (model.composed walks)) Idle :=
  (follows_compose rfl capacity .typeDefs walks).yields

/-! ## Replays -/

theorem yields_replayMembers (scope : Token) :
    Drive.Yields Idle
      (Drive.onCursor (session model (.skewed skew)) (.members scope)
        (CursorDrive.replayMembers (session model (.skewed skew)) (lister model skew capacity).capacity scope))
      (.ok (Replay.ofCount scope (model.items (.members scope))
        ((FaultPlan.skewed skew).reported model (.members scope)))) Idle := by
  let drained : Iterator := (⟨.members scope, none⟩ : Iterator).advance (model.items (.members scope)).length
  let count := drained.count model (.skewed skew)
  have hcount : (FaultPlan.skewed skew).reported model (.members scope) = count := rfl
  let atTail : Iterator := { drained with position := some (count - 1).toNat }
  let atStart : Iterator := { drained with position := some 0 }
  rw [hcount]
  by_cases hzero : count = 0
  · rw [Replay.ofCount, if_pos hzero]
    refine yields_onCursor drained ((yields_drain _ _).andThen ((yields_count drained).andThen ?_))
    rw [if_pos hzero]
    exact Drive.yields_pure _
  · rw [Replay.ofCount, if_neg hzero]
    refine yields_onCursor (atStart.advance (atStart.rest model).length)
      ((yields_drain _ _).andThen ((yields_count drained).andThen ?_))
    rw [if_neg hzero]
    exact (yields_reset drained rfl _).andThen ((yields_drain _ atTail).andThen
      ((yields_reset _ rfl 0).andThen ((yields_drain _ atStart).andThen (Drive.yields_pure _))))

theorem yields_replay :
    Drive.Yields Idle (lister model skew capacity).replay
      (settle model (.skewed skew) (model.scenarioVisits .resetEnum) (model.replayUnder (.skewed skew))) Idle := by
  have hcollect := yields_collect model skew capacity .typeDefs
  unfold Lister.replay Model.replayUnder Model.scenarioVisits
  cases hfailure : Visit.failure? model (.skewed skew) ⟨.typeDefs, true⟩ with
  | some failure =>
      rw [settle_cons_of_some hfailure] at hcollect ⊢
      exact hcollect.stop _
  | none =>
      rw [settle_cons_of_none hfailure, settle_nil] at hcollect
      rw [settle_cons_of_none hfailure]
      cases hitems : model.items .typeDefs with
      | nil =>
          rw [hitems] at hcollect
          exact hcollect.andThen (Drive.yields_pure _)
      | cons scope types =>
          rw [hitems] at hcollect
          rw [List.take_succ_cons, List.take_zero, List.map_singleton, settle_cons_of_none (failure?_uncounted _)]
          exact hcollect.andThen (yields_replayMembers model skew capacity scope)

theorem yields_resetEnum (side : Side) (strictReset : Bool) :
    Drive.Yields Idle (Scenario.resetEnum.run (lister model skew capacity) side strictReset)
      (model.listingUnder (.skewed skew) side strictReset .resetEnum) Idle := by
  have hlisting : ∀ replay : Replay, Drive.Yields Idle (do
      if strictReset then Drive.ofExcept fun state => (replay.check side, state)
      return Listing.tokens replay.tokens) (do
      if strictReset then replay.check side
      return Listing.tokens replay.tokens) Idle := by
    intro replay
    cases strictReset with
    | false => exact Drive.yields_pure _
    | true =>
        refine Drive.Yields.bind (Drive.yields_ofExcept fun _ hidle => ⟨rfl, hidle⟩) fun _ _ => ?_
        exact Drive.yields_pure _
  have hreplay := (yields_replay model skew capacity).bind fun replay _ => hlisting replay
  rw [settle_bind] at hreplay
  exact hreplay

/-! ## Signatures -/

theorem yields_lookup (token : Token) :
    Drive.Yields Idle ((lister model skew capacity).lookup token) (model.lookup token) Idle := by
  refine Drive.yields_ofExcept fun state hidle => ⟨?_, hidle⟩
  change (signature model (.skewed skew) token).mapError (Failure.lookupFailed token) = _
  unfold signature Model.lookup
  cases model.blob? token <;> rfl

theorem yields_resolve (hcountable : model.Countable) {token : Token} (hmem : token ∈ model.items .signatures) :
    Drive.Yields Idle ((lister model skew capacity).resolve token) (model.resolved token) Idle := by
  refine (yields_lookup model skew capacity token).bind fun blob hblob => ?_
  have hfits : blob.bytes.length < 0x100000000 := by
    unfold Model.lookup at hblob
    split at hblob
    · next bytes hbytes =>
        obtain rfl := Except.ok.inj hblob
        exact hcountable.length_blob_lt token hmem bytes hbytes
    · cases hblob
  rw [if_pos hfits]
  exact Drive.yields_pure _

theorem yields_copy (token : Token) :
    Drive.Yields Idle ((lister model skew capacity).copy token) (model.copied token) Idle :=
  (yields_lookup model skew capacity token).bind fun _ _ => Drive.yields_pure _

/-! ## Scenarios -/

theorem yields_scenario (hcountable : model.Countable) (scenario : Scenario) (side : Side) (strictReset : Bool) :
    Drive.Yields Idle (scenario.run (lister model skew capacity) side strictReset)
      (model.listingUnder (.skewed skew) side strictReset scenario) Idle := by
  have hcollect := fun query => (yields_collect model skew capacity query).map Listing.tokens
  have hcompose := fun walks => (yields_compose model skew capacity walks).map Listing.tokens
  simp only [settle_map] at hcollect hcompose
  unfold Model.listingUnder
  cases scenario with
  | typeDefs | typeRefs | typeSpecs | moduleRefs | signatures | userStrings => exact hcollect _
  | typeHierarchy | members | propertiesEvents => exact hcompose _
  | sigFromToken =>
      have hresolve : Drive.Yields Idle ((lister model skew capacity).resolveSignatures) _ Idle :=
        (yields_collect model skew capacity .signatures).bind fun tokens hitems =>
          Drive.yields_mapM fun token hmem => by
            obtain rfl := eq_of_settle_eq_ok hitems
            exact yields_resolve model skew capacity hcountable hmem
      have hrecords := hresolve.map Listing.records
      rw [settle_bind, map_bind] at hrecords
      exact hrecords
  | signatureBlobs =>
      have hcopy : Drive.Yields Idle ((lister model skew capacity).copySignatures) _ Idle :=
        (yields_collect model skew capacity .signatures).bind fun tokens _ =>
          Drive.yields_mapM fun token _ => yields_copy model skew capacity token
      have hblobs := hcopy.map Listing.blobs
      rw [settle_bind, map_bind] at hblobs
      exact hblobs
  | resetEnum => exact yields_resetEnum model skew capacity side strictReset

/-! ## No faults -/

theorem settle_eq_ok {α : Type} (hcountable : model.Countable) (visits : List Visit) (a : α) :
    settle model {} visits a = .ok a := by
  have hfirst : visits.findSome? (·.failure? model {}) = none :=
    List.findSome?_eq_none_iff.mpr fun visit _ => Visit.failure?_eq_none rfl rfl fun _ =>
      hcountable.length_items_lt visit.query
  unfold settle
  rw [hfirst]

theorem toNat_reported (hcountable : model.Countable) (query : Query) :
    (FaultPlan.reported {} model query).toNat = (model.items query).length := by
  have hlength := hcountable.length_items_lt query
  have hskew : Iterator.skew {} ⟨query, none⟩ = 0 := rfl
  rw [FaultPlan.reported, hskew, toNat_clampCount]
  omega

theorem uncheckedListing_eq (hcountable : model.Countable) (side : Side) (strictReset : Bool) (scenario : Scenario) :
    model.uncheckedListing {} side strictReset scenario = model.listing scenario := by
  have hreplay : (model.replayUnder {}).check side = .ok () ∧ (model.replayUnder {}).tokens = model.replayed := by
    unfold Model.replayUnder Model.replayed
    cases model.items .typeDefs with
    | nil => exact ⟨rfl, rfl⟩
    | cons scope types =>
        have hcount := toNat_reported model hcountable (.members scope)
        exact ⟨(Replay.check_ofCount_eq_ok_iff ..).mpr (.inr hcount), (Replay.tokens_ofCount_eq_iff ..).mpr (.inl hcount)⟩
  cases scenario with
  | resetEnum =>
      rw [Model.listing, ← hreplay.2, Model.uncheckedListing, hreplay.1]
      cases strictReset <;> rfl
  | _ => rfl

theorem listingUnder_eq (hcountable : model.Countable) (side : Side) (strictReset : Bool) (scenario : Scenario) :
    model.listingUnder {} side strictReset scenario = model.listing scenario := by
  rw [Model.listingUnder, settle_eq_ok model hcountable]
  exact uncheckedListing_eq model hcountable side strictReset scenario

end

end Memory

end MetaParity
