import MetaParity.Proofs.Memory.Parity

/-! # Wrong counts on one side

Which wrong counts a run notices. Those of any kind but members fail the enumeration itself; those of members only show
in where the replay of the first type goes astray. -/

namespace MetaParity

theorem Walk.visits_leaf (model : Model) (query : Token → Query) (parent : Token) :
    (leaf query).visits model parent = [⟨query parent, true⟩] := by
  simp [leaf, visits, allVisits]

namespace Model

variable (model : Model)

/-- An enumeration of the kind that some scenario makes. -/
def Reached (kind : Kind) (visit : Visit) : Prop :=
  visit.query.kind = kind ∧ ∃ scenario, visit ∈ model.scenarioVisits scenario

variable {model}

theorem counted_of_mem_scenarioVisits {scenario : Scenario} {visit : Visit} (h : visit ∈ model.scenarioVisits scenario) :
    visit.counted ↔ visit.query.kind ≠ .members := by
  cases scenario with
  | typeDefs | typeRefs | typeSpecs | moduleRefs | signatures | userStrings | sigFromToken | signatureBlobs =>
      obtain rfl := List.mem_singleton.mp h
      decide
  | typeHierarchy =>
      simp only [scenarioVisits, visits, Walk.typeHierarchy, Walk.visits_leaf, Walk.visits, Walk.allVisits,
        List.mem_cons, List.mem_flatMap, List.mem_append, List.not_mem_nil, or_false] at h
      rcases h with rfl | ⟨type, -, rfl | (rfl | ⟨method, -, rfl⟩) | rfl⟩ <;> simp [Query.kind]
  | members =>
      simp only [scenarioVisits, visits, Walk.members, Walk.visits, Walk.allVisits, List.mem_cons, List.mem_flatMap,
        List.mem_append, List.not_mem_nil, and_false, exists_false, or_false] at h
      rcases h with rfl | ⟨type, -, rfl⟩ <;> simp [Query.kind]
  | propertiesEvents =>
      simp only [scenarioVisits, visits, Walk.propertiesEvents, Walk.visits_leaf, Walk.allVisits, List.mem_cons,
        List.mem_flatMap, List.mem_append, List.not_mem_nil, or_false] at h
      rcases h with rfl | ⟨type, -, rfl | rfl⟩ <;> simp [Query.kind]
  | resetEnum =>
      simp only [scenarioVisits, List.mem_cons, List.mem_map] at h
      obtain rfl | ⟨scope, -, rfl⟩ := h
      · decide
      · simp [Query.kind]

end Model

namespace Memory

variable {model : Model} {kind : Kind} {skew : Int} {visit : Visit}

theorem skew_of_kind_eq {query : Query} (h : query.kind = kind) :
    Iterator.skew (.skewed (some (kind, skew))) ⟨query, none⟩ = skew := by
  simp [Iterator.skew, Option.filter, h]

theorem skew_of_kind_ne {query : Query} (h : query.kind ≠ kind) :
    Iterator.skew (.skewed (some (kind, skew))) ⟨query, none⟩ = 0 := by
  simp [Iterator.skew, Option.filter, Ne.symm h]

theorem max_ne_iff {length : Nat} {skew : Int} :
    max 0 (length + skew) ≠ length ↔ 0 < skew ∨ skew < 0 ∧ length ≠ 0 := by
  omega

/-- A checked count fails its enumeration if it is wrong even after it is cut off at zero. -/
theorem failure?_skewed (hlength : (model.items visit.query).length < 0xffffffff) :
    Visit.failure? model (.skewed (some (kind, skew))) visit =
      if visit.counted ∧ visit.query.kind = kind ∧
          max 0 ((model.items visit.query).length + skew) ≠ (model.items visit.query).length then
        some (.countMismatch visit.query (min ((model.items visit.query).length + skew).toNat 0xffffffff)
          (model.items visit.query).length)
      else none := by
  have hfault : Iterator.fault? (.skewed (some (kind, skew))) ⟨visit.query, none⟩ = none := rfl
  by_cases hkind : visit.query.kind = kind
  · have hwrong : min ((model.items visit.query).length + skew).toNat 0xffffffff ≠ (model.items visit.query).length ↔
        max 0 ((model.items visit.query).length + skew) ≠ (model.items visit.query).length := by
      omega
    simp only [Visit.failure?, hfault, skew_of_kind_eq hkind, toNat_clampCount, hwrong, hkind, true_and]
  · have hnone := Visit.failure?_eq_none hfault (skew_of_kind_ne hkind) fun _ => Nat.lt_trans hlength (by decide)
    rw [hnone, if_neg fun h => hkind h.2.1]

def verdictUnder (model : Model) (kind : Kind) (skew : Int) (config : RunConfig) (scenario : Scenario) :
    Except Mishap (Nat × Nat) :=
  Run.verdict config.context scenario (model.listing scenario)
    (model.listingUnder (.skewed (some (kind, skew))) .current config.strictReset scenario)

def summaryUnder (model : Model) (kind : Kind) (skew : Int) (config : RunConfig) (name : String) : ImageSummary :=
  .ofRecords name (Run.judged (verdictUnder model kind skew config) Scenario.all)

variable {config : RunConfig} {name : String} {scenario : Scenario}

theorem isPass_summaryUnder_eq_false_iff :
    (summaryUnder model kind skew config name).isPass = false ↔
      ∃ scenario, (verdictUnder model kind skew config scenario).isOk = false := by
  have hpass : (summaryUnder model kind skew config name).isPass ↔
      ∀ scenario, (verdictUnder model kind skew config scenario).isOk := by
    rw [summaryUnder, ImageSummary.isPass_ofRecords, Run.forall_judged_iff]
    exact ⟨fun h scenario => h scenario scenario.mem_all, fun h scenario _ => h scenario⟩
  rw [← Bool.not_eq_true, hpass, not_forall]
  simp only [Bool.not_eq_true]

theorem isOk_verdictUnder (hsigned : model.Signed)
    (h : model.listingUnder (.skewed (some (kind, skew))) .current config.strictReset scenario = model.listing scenario) :
    (verdictUnder model kind skew config scenario).isOk := by
  obtain ⟨listing, hlisting⟩ := Model.exists_listing (hsigned.unresolved?_eq_none scenario)
  rw [verdictUnder, h, hlisting, Run.isOk_verdict_iff]
  exact Listing.same_ok_iff.mpr listing.compare_self

/-! ## Kinds other than members -/

theorem uncheckedListing_skewed (hkind : kind ≠ .members) (side : Side) (strictReset : Bool) (scenario : Scenario) :
    model.uncheckedListing (.skewed (some (kind, skew))) side strictReset scenario =
      model.uncheckedListing {} side strictReset scenario := by
  have hreported : ∀ scope : Token, FaultPlan.reported (.skewed (some (kind, skew))) model (.members scope) =
      FaultPlan.reported {} model (.members scope) := by
    intro scope
    have hscope : (Query.members scope).kind ≠ kind := hkind.symm
    rw [FaultPlan.reported, skew_of_kind_ne hscope]
    rfl
  have hreplay : model.replayUnder (.skewed (some (kind, skew))) = model.replayUnder {} := by
    unfold Model.replayUnder
    cases model.items .typeDefs with
    | nil => rfl
    | cons scope types => simp only [hreported]
  cases scenario with
  | resetEnum => rw [Model.uncheckedListing, Model.uncheckedListing, hreplay]
  | _ => rfl

theorem isOk_verdictUnder_of_none (hcountable : model.Countable) (hsigned : model.Signed) (hkind : kind ≠ .members)
    (h : (model.scenarioVisits scenario).findSome? (·.failure? model (.skewed (some (kind, skew)))) = none) :
    (verdictUnder model kind skew config scenario).isOk := by
  apply isOk_verdictUnder hsigned
  rw [Model.listingUnder, settle, h, ← uncheckedListing_eq model hcountable .current config.strictReset scenario,
    ← uncheckedListing_skewed hkind]
  rfl

theorem verdictUnder_of_some (hsigned : model.Signed) {failure : Failure}
    (h : (model.scenarioVisits scenario).findSome? (·.failure? model (.skewed (some (kind, skew)))) = some failure) :
    verdictUnder model kind skew config scenario = .error ⟨some .current, failure⟩ := by
  obtain ⟨listing, hlisting⟩ := Model.exists_listing (hsigned.unresolved?_eq_none scenario)
  rw [verdictUnder, hlisting, Model.listingUnder, settle, h]
  rfl

theorem exists_miscounted (hcountable : model.Countable) (hsigned : model.Signed)
    (hlists : ∀ query, (model.items query).length < 0xffffffff) (hkind : kind ≠ .members)
    (h : (summaryUnder model kind skew config name).isPass = false) :
    ∃ record, (summaryUnder model kind skew config name).firstFailure? = some record ∧
      ∃ visit ∈ model.scenarioVisits record.scenario, visit.query.kind = kind ∧
        max 0 ((model.items visit.query).length + skew) ≠ (model.items visit.query).length ∧
        record.outcome = .failed (some .current) (Failure.countMismatch visit.query
          (min ((model.items visit.query).length + skew).toNat 0xffffffff)
          (model.items visit.query).length).message none := by
  obtain ⟨scenario, -, mishap, hmishap, hfirst⟩ := Run.exists_firstFailure h
  refine ⟨_, hfirst, ?_⟩
  cases hfind : (model.scenarioVisits scenario).findSome? (·.failure? model (.skewed (some (kind, skew)))) with
  | none =>
      have hok : (verdictUnder model kind skew config scenario).isOk :=
        isOk_verdictUnder_of_none hcountable hsigned hkind hfind
      rw [hmishap] at hok
      cases hok
  | some failure =>
      obtain ⟨before, visit, after, hsplit, hfailure, -⟩ := List.findSome?_eq_some_iff.mp hfind
      rw [verdictUnder_of_some hsigned hfind] at hmishap
      obtain rfl := Except.error.inj hmishap
      rw [failure?_skewed (hlists visit.query)] at hfailure
      split at hfailure
      · next hnoticed =>
          obtain rfl := Option.some.inj hfailure
          exact ⟨visit, by rw [Mishap.record, hsplit]; simp, hnoticed.2.1, hnoticed.2.2, rfl⟩
      · cases hfailure

theorem isPass_of_miscounted (hsigned : model.Signed) (hlists : ∀ query, (model.items query).length < 0xffffffff)
    (hkind : kind ≠ .members) (hmem : visit ∈ model.scenarioVisits scenario) (hvisit : visit.query.kind = kind)
    (hwrong : max 0 ((model.items visit.query).length + skew) ≠ (model.items visit.query).length) :
    (summaryUnder model kind skew config name).isPass = false := by
  have hcounted : visit.counted := by
    rw [Model.counted_of_mem_scenarioVisits hmem, hvisit]
    exact hkind
  have hfailure : Visit.failure? model (.skewed (some (kind, skew))) visit = _ := failure?_skewed (hlists visit.query)
  rw [if_pos ⟨hcounted, hvisit, hwrong⟩] at hfailure
  rw [isPass_summaryUnder_eq_false_iff]
  refine ⟨scenario, ?_⟩
  cases hfind : (model.scenarioVisits scenario).findSome? (·.failure? model (.skewed (some (kind, skew)))) with
  | none =>
      rw [List.findSome?_eq_none_iff.mp hfind visit hmem] at hfailure
      cases hfailure
  | some failure =>
      rw [verdictUnder_of_some hsigned hfind]
      rfl

/-! ## Members -/

theorem settle_members (hlists : ∀ query, (model.items query).length < 0xffffffff) (scenario : Scenario) :
    settle model (.skewed (some (.members, skew))) (model.scenarioVisits scenario) () = .ok () := by
  have hfirst : (model.scenarioVisits scenario).findSome?
      (·.failure? model (.skewed (some (.members, skew)))) = none := by
    rw [List.findSome?_eq_none_iff]
    intro visit hmem
    rw [failure?_skewed (hlists visit.query), if_neg]
    intro hnoticed
    exact (Model.counted_of_mem_scenarioVisits hmem).mp hnoticed.1 hnoticed.2.1
  unfold settle
  rw [hfirst]

theorem isOk_verdictUnder_members (hlists : ∀ query, (model.items query).length < 0xffffffff) (hsigned : model.Signed)
    (hscenario : scenario ≠ .resetEnum) : (verdictUnder model .members skew config scenario).isOk := by
  apply isOk_verdictUnder hsigned
  rw [Model.listingUnder, settle_members hlists]
  cases scenario with
  | resetEnum => exact absurd rfl hscenario
  | _ => rfl

/-- Without a check a replay passes if it was told the truth or there was nothing to replay. -/
theorem isOk_verdict_ofCount {scope : Token} {members : List Token} {count : UInt32} (context : Nat) :
    (Run.verdict context .resetEnum (.ok (.tokens (members ++ members.drop (members.length - 1) ++ members)))
      (.ok (.tokens (Replay.ofCount scope members count).tokens))).isOk ↔
        count.toNat = members.length ∨ members = [] := by
  rw [Run.isOk_verdict_iff, Listing.same_ok_iff, Listing.compare_tokens_eq_none_iff, eq_comm]
  exact Replay.tokens_ofCount_eq_iff scope members

section

variable {scope : Token} {members : List Token} {count : UInt32} {skew : Int}

theorem eq_zero_iff_of_miscounted (hcount : count.toNat = min (members.length + skew).toNat 0xffffffff) :
    count = 0 ↔ members.length + skew ≤ 0 := by
  rw [← UInt32.toNat_inj, hcount, UInt32.toNat_zero]
  omega

/-- A wrong count is cut off to the right one only where there is nothing to count. -/
theorem toNat_eq_length_iff_of_miscounted (hskew : skew ≠ 0) (hlength : members.length < 0xffffffff)
    (hcount : count.toNat = min (members.length + skew).toNat 0xffffffff) :
    count.toNat = members.length ↔ members = [] ∧ skew < 0 := by
  rw [hcount, ← List.length_eq_zero_iff]
  omega

theorem isOk_verdict_of_miscounted (hskew : skew ≠ 0) (hlength : members.length < 0xffffffff)
    (hcount : count.toNat = min (members.length + skew).toNat 0xffffffff) (context : Nat) :
    (Run.verdict context .resetEnum (.ok (.tokens (members ++ members.drop (members.length - 1) ++ members)))
      (.ok (.tokens (Replay.ofCount scope members count).tokens))).isOk ↔ members = [] := by
  rw [isOk_verdict_ofCount, toNat_eq_length_iff_of_miscounted hskew hlength hcount]
  exact ⟨fun h => h.elim (·.1) id, .inr⟩

/-- A check notices a wrong count unless that is cut off at zero. -/
theorem check_eq_ok_iff_of_miscounted (hskew : skew ≠ 0) (hlength : members.length < 0xffffffff)
    (hcount : count.toNat = min (members.length + skew).toNat 0xffffffff) (side : Side) :
    (Replay.ofCount scope members count).check side = .ok () ↔ members.length + skew ≤ 0 := by
  rw [Replay.check_ofCount_eq_ok_iff, eq_zero_iff_of_miscounted hcount,
    toNat_eq_length_iff_of_miscounted hskew hlength hcount, ← List.length_eq_zero_iff]
  omega

theorem verdict_replay (hskew : skew ≠ 0) (hlength : members.length < 0xffffffff)
    (hcount : count.toNat = min (members.length + skew).toNat 0xffffffff) (context : Nat) (strictReset : Bool) :
    let replay := Replay.ofCount scope members count
    let verdict := Run.verdict context .resetEnum
      (.ok (.tokens (members ++ members.drop (members.length - 1) ++ members))) (do
        if strictReset then replay.check .current
        return .tokens replay.tokens)
    (verdict.isOk ↔ members = [] ∧ ¬(0 < skew ∧ strictReset)) ∧
    ∀ mishap, verdict = .error mishap →
      if strictReset ∧ 0 < members.length + skew then
        ∃ detail, mishap = ⟨some .current, .replayInconsistent .current detail⟩
      else ∃ divergence, mishap = ⟨none, .diverged divergence⟩ := by
  intro replay verdict
  have htokens : (Run.verdict context .resetEnum (.ok (.tokens (members ++ members.drop (members.length - 1) ++ members)))
      (.ok (.tokens replay.tokens))).isOk ↔ members = [] := isOk_verdict_of_miscounted hskew hlength hcount context
  have hcheck : replay.check .current = .ok () ↔ members.length + skew ≤ 0 :=
    check_eq_ok_iff_of_miscounted hskew hlength hcount .current
  cases strictReset with
  | false =>
      refine ⟨htokens.trans (by simp), fun mishap hmishap => ?_⟩
      rw [if_neg (by simp)]
      exact Run.exists_divergence_of_verdict hmishap
  | true =>
      have hverdict : verdict = Run.verdict context .resetEnum
          (.ok (.tokens (members ++ members.drop (members.length - 1) ++ members)))
          (replay.check .current >>= fun _ => .ok (.tokens replay.tokens)) := rfl
      rw [hverdict]
      cases hresult : replay.check .current with
      | error failure =>
          have hwrong : 0 < members.length + skew := by
            rw [hresult] at hcheck
            have hnot : ¬members.length + skew ≤ 0 := fun hle => by cases hcheck.mpr hle
            omega
          obtain ⟨detail, rfl⟩ := Replay.exists_detail_of_check hresult
          refine ⟨iff_of_false Bool.false_ne_true fun h => h.2 ⟨?_, rfl⟩, fun mishap hmishap => ?_⟩
          · have hnil := List.length_eq_zero_iff.mpr h.1
            omega
          · rw [if_pos ⟨rfl, hwrong⟩]
            exact ⟨detail, (Except.error.inj hmishap).symm⟩
      | ok passed =>
          have hright := hcheck.mp hresult
          refine ⟨htokens.trans (iff_self_and.mpr fun _ hcaught => ?_), fun mishap hmishap => ?_⟩
          · have hpos := hcaught.1
            omega
          · rw [if_neg fun hcaught => absurd hcaught.2 (by omega)]
            exact Run.exists_divergence_of_verdict hmishap

end

theorem verdictUnder_resetEnum (hlists : ∀ query, (model.items query).length < 0xffffffff) {type : TypeDef}
    {types : List TypeDef} (htypes : model.types = type :: types) (hskew : skew ≠ 0) :
    ((verdictUnder model .members skew config .resetEnum).isOk ↔
      type.members = [] ∧ ¬(0 < skew ∧ config.strictReset)) ∧
    ∀ mishap, verdictUnder model .members skew config .resetEnum = .error mishap →
      if config.strictReset ∧ 0 < type.members.length + skew then
        ∃ detail, mishap = ⟨some .current, .replayInconsistent .current detail⟩
      else ∃ divergence, mishap = ⟨none, .diverged divergence⟩ := by
  obtain ⟨hitems, hmembers⟩ := Model.items_members_of_types htypes
  have hkind : (Query.members type.token).kind = .members := rfl
  have hlength := hlists (.members type.token)
  rw [hmembers] at hlength
  have hcount : (FaultPlan.reported (.skewed (some (.members, skew))) model (.members type.token)).toNat =
      min (type.members.length + skew).toNat 0xffffffff := by
    rw [FaultPlan.reported, skew_of_kind_eq hkind, toNat_clampCount, hmembers]
  have hlisting : model.listing .resetEnum = .ok (.tokens (type.members ++
      type.members.drop (type.members.length - 1) ++ type.members)) := by
    rw [Model.listing, Model.replayed, hitems]
    dsimp only
    rw [hmembers]
  rw [verdictUnder, hlisting, Model.listingUnder, settle_members hlists, Model.uncheckedListing, Model.replayUnder, hitems]
  dsimp only
  rw [hmembers]
  exact verdict_replay hskew hlength hcount config.context config.strictReset

theorem isOk_verdictUnder_resetEnum (hlists : ∀ query, (model.items query).length < 0xffffffff)
    (hsigned : model.Signed) (htypes : model.types = []) :
    (verdictUnder model .members skew config .resetEnum).isOk := by
  have hitems : model.items .typeDefs = [] := by
    rw [Model.items, htypes, List.map_nil]
  apply isOk_verdictUnder hsigned
  rw [Model.listingUnder, settle_members hlists, Model.uncheckedListing, Model.replayUnder, Model.listing,
    Model.replayed, hitems]
  cases config.strictReset <;> rfl

theorem exists_passed_members (hlists : ∀ query, (model.items query).length < 0xffffffff) (hsigned : model.Signed) :
    ∃ record ∈ (summaryUnder model .members skew config name).records,
      record.scenario = .members ∧ record.outcome = .passed := by
  have hbefore : ∀ earlier ∈ [Scenario.typeDefs, .typeRefs, .typeSpecs, .moduleRefs, .typeHierarchy],
      (verdictUnder model .members skew config earlier).isOk := by
    intro earlier hmem
    apply isOk_verdictUnder_members hlists hsigned
    rintro rfl
    simp at hmem
  have hmembers : (verdictUnder model .members skew config .members).isOk :=
    isOk_verdictUnder_members hlists hsigned (by decide)
  cases hverdict : verdictUnder model .members skew config .members with
  | ok items => exact ⟨_, Run.mem_judged_of_ok hbefore hverdict, rfl, rfl⟩
  | error mishap =>
      rw [hverdict] at hmembers
      cases hmembers

theorem isPass_members_iff (hlists : ∀ query, (model.items query).length < 0xffffffff) (hsigned : model.Signed) :
    (summaryUnder model .members skew config name).isPass = false ↔
      (verdictUnder model .members skew config .resetEnum).isOk = false := by
  rw [isPass_summaryUnder_eq_false_iff]
  refine ⟨fun ⟨scenario, hfails⟩ => ?_, fun h => ⟨.resetEnum, h⟩⟩
  by_cases hscenario : scenario = .resetEnum
  · rwa [← hscenario]
  · rw [isOk_verdictUnder_members hlists hsigned hscenario] at hfails
    cases hfails

theorem exists_failed_replay (hlists : ∀ query, (model.items query).length < 0xffffffff) (hsigned : model.Signed)
    (hskew : skew ≠ 0) (h : (summaryUnder model .members skew config name).isPass = false) :
    ∃ type ∈ model.types.head?, ∃ record,
      (summaryUnder model .members skew config name).firstFailure? = some record ∧ record.scenario = .resetEnum ∧
      if config.strictReset ∧ 0 < type.members.length + skew then
        ∃ detail, record.outcome = .failed (some .current) (Failure.replayInconsistent .current detail).message none
      else ∃ divergence : Divergence, record.outcome = .failed none divergence.text (some divergence) := by
  have hfails := (isPass_members_iff hlists hsigned).mp h
  obtain ⟨scenario, -, mishap, hmishap, hfirst⟩ := Run.exists_firstFailure h
  have hscenario : scenario = .resetEnum := by
    by_contra hne
    have hok : (verdictUnder model .members skew config scenario).isOk := isOk_verdictUnder_members hlists hsigned hne
    rw [hmishap] at hok
    cases hok
  rw [hscenario] at hmishap hfirst
  cases htypes : model.types with
  | nil =>
      rw [isOk_verdictUnder_resetEnum hlists hsigned htypes] at hfails
      cases hfails
  | cons type types =>
      refine ⟨type, rfl, _, hfirst, rfl, ?_⟩
      have hform := (verdictUnder_resetEnum hlists htypes hskew).2 mishap hmishap
      split at hform
      · next hcaught =>
          obtain ⟨detail, rfl⟩ := hform
          rw [if_pos hcaught]
          exact ⟨detail, rfl⟩
      · next hcaught =>
          obtain ⟨divergence, rfl⟩ := hform
          rw [if_neg hcaught]
          exact ⟨divergence, rfl⟩

/-! ## Runs -/

/-- A kind other than members fails a run exactly where one of its counts is wrong even after it is cut off at zero. -/
theorem isPass_eq_false_iff (hcountable : model.Countable) (hsigned : model.Signed)
    (hlists : ∀ query, (model.items query).length < 0xffffffff) (hkind : kind ≠ .members) :
    (summaryUnder model kind skew config name).isPass = false ↔ ∃ visit, model.Reached kind visit ∧
      max 0 ((model.items visit.query).length + skew) ≠ (model.items visit.query).length := by
  constructor
  · intro hfails
    obtain ⟨record, -, visit, hmem, hvisit, hwrong, -⟩ := exists_miscounted hcountable hsigned hlists hkind hfails
    exact ⟨visit, ⟨hvisit, record.scenario, hmem⟩, hwrong⟩
  · rintro ⟨visit, ⟨hvisit, scenario, hmem⟩, hwrong⟩
    exact isPass_of_miscounted hsigned hlists hkind hmem hvisit hwrong

theorem length_items_lt (hlists : ∀ query, query.kind ≠ .members → (model.items query).length < 0x80000000)
    (query : Query) : (model.items query).length < 0xffffffff := by
  by_cases hkind : query.kind = .members
  · cases query with
    | members scope =>
        have hmethods := hlists (.methods scope) (by simp [Query.kind])
        have hfields := hlists (.fields scope) (by simp [Query.kind])
        rw [model.length_items_members scope]
        omega
    | _ => cases hkind
  · exact Nat.lt_trans (hlists query hkind) (by decide)

theorem exists_image_eq_summaryUnder (hcountable : model.Countable) (kind : Kind) (skew : Int) (config : RunConfig)
    (name : String) (bytes : Bytes) (state : DispenserState × DispenserState) :
    ∃ state' : DispenserState × DispenserState,
      (Run.image { config with scenarios := Scenario.all } name
        (dispensers (model, {}) (model, .skewed (some (kind, skew)))) bytes).run state =
          (some (summaryUnder model kind skew config name), state') := by
  have hsettled := settled_sessionsUnder hcountable hcountable none (some (kind, skew))
    { config with scenarios := Scenario.all } state.1.tables.length state.2.tables.length
  obtain ⟨state', hrun, -⟩ := hsettled.sessions_eq name
    (s := ({ state.1 with tables := state.1.tables ++ [{}] }, { state.2 with tables := state.2.tables ++ [{}] }))
    ⟨idleAt_concat state.1, idleAt_concat state.2⟩
  have hverdicts : verdictUnder model kind skew config = fun scenario => Run.verdict config.context scenario
      (model.listingUnder (.skewed none) .baseline config.strictReset scenario)
      (model.listingUnder (.skewed (some (kind, skew))) .current config.strictReset scenario) := by
    funext scenario
    rw [verdictUnder, listingUnder_eq model hcountable]
  rw [summaryUnder, hverdicts]
  exact ⟨_, Run.image_eq_of_openScope (openScope_dispensers model model bytes state) hrun⟩

/-- A kind other than members fails its first enumeration whose count is wrong even after it is cut off at zero. Members
fail their replay if the first type has any, and its check if it has none but is reported to. -/
theorem image_miscounted (model : Model) (hsigned : model.Signed)
    (hlists : ∀ query, query.kind ≠ .members → (model.items query).length < 0x80000000)
    (hblobs : ∀ token ∈ model.signatures, ∀ bytes, model.blob? token = some bytes → bytes.length < 0x100000000)
    (kind : Kind) (skew : Int) (hskew : skew ≠ 0) (config : RunConfig) (name : String) (bytes : Bytes)
    (state : DispenserState × DispenserState) :
    ∃ (summary : ImageSummary) (state' : DispenserState × DispenserState),
      (Run.image { config with scenarios := Scenario.all } name
        (dispensers (model, {}) (model, { countSkew := some (kind, skew) })) bytes).run state = (some summary, state') ∧
      (kind ≠ .members →
        (summary.isPass = false ↔ ∃ visit, model.Reached kind visit ∧
          max 0 ((model.items visit.query).length + skew) ≠ (model.items visit.query).length) ∧
        (summary.isPass = false ↔ 0 < skew ∧ (∃ visit, model.Reached kind visit) ∨
          skew < 0 ∧ ∃ visit, model.Reached kind visit ∧ model.items visit.query ≠ []) ∧
        (summary.isPass = false → ∃ record, summary.firstFailure? = some record ∧
          ∃ visit ∈ model.scenarioVisits record.scenario, visit.query.kind = kind ∧
            record.outcome = .failed (some .current) (Failure.countMismatch visit.query
              (min ((model.items visit.query).length + skew).toNat 0xffffffff)
              (model.items visit.query).length).message none)) ∧
      (kind = .members →
        (∃ record ∈ summary.records, record.scenario = .members ∧ record.outcome = .passed) ∧
        (summary.isPass = false ↔ ∃ type ∈ model.types.head?,
          type.members ≠ [] ∨ type.members = [] ∧ 0 < skew ∧ config.strictReset) ∧
        (summary.isPass = false → ∃ type ∈ model.types.head?, ∃ record, summary.firstFailure? = some record ∧
          record.scenario = .resetEnum ∧
          if config.strictReset ∧ 0 < type.members.length + skew then
            ∃ detail, record.outcome =
              .failed (some .current) (Failure.replayInconsistent .current detail).message none
          else ∃ divergence : Divergence, record.outcome = .failed none divergence.text (some divergence))) := by
  have hlengths : ∀ query, (model.items query).length < 0xffffffff := length_items_lt hlists
  have hcountable : model.Countable := ⟨fun query => Nat.lt_trans (hlengths query) (by decide), hblobs⟩
  obtain ⟨state', hrun⟩ := exists_image_eq_summaryUnder hcountable kind skew config name bytes state
  refine ⟨_, state', hrun, fun hkind => ?_, fun hkind => ?_⟩
  · have hmiscounted : (summaryUnder model kind skew config name).isPass = false ↔ _ :=
      isPass_eq_false_iff hcountable hsigned hlengths hkind
    refine ⟨hmiscounted, hmiscounted.trans ?_, fun hfails => ?_⟩
    · simp only [max_ne_iff, ne_eq, List.length_eq_zero_iff]
      constructor
      · rintro ⟨visit, hreached, hpos | ⟨hneg, hitems⟩⟩
        · exact .inl ⟨hpos, visit, hreached⟩
        · exact .inr ⟨hneg, visit, hreached, hitems⟩
      · rintro (⟨hpos, visit, hreached⟩ | ⟨hneg, visit, hreached, hitems⟩)
        · exact ⟨visit, hreached, .inl hpos⟩
        · exact ⟨visit, hreached, .inr ⟨hneg, hitems⟩⟩
    · obtain ⟨record, hfirst, visit, hmem, hvisit, -, houtcome⟩ :=
        exists_miscounted hcountable hsigned hlengths hkind hfails
      exact ⟨record, hfirst, visit, hmem, hvisit, houtcome⟩
  · subst hkind
    refine ⟨exists_passed_members hlengths hsigned, ?_, exists_failed_replay hlengths hsigned hskew⟩
    rw [isPass_members_iff hlengths hsigned]
    cases htypes : model.types with
    | nil =>
        rw [isOk_verdictUnder_resetEnum hlengths hsigned htypes]
        simp
    | cons type types =>
        rw [← Bool.not_eq_true, (verdictUnder_resetEnum hlengths htypes hskew).1]
        by_cases hmembers : type.members = [] <;> simp [hmembers]

/-- Type references that are not there cannot be undercounted, but members can be overcounted. -/
theorem image_miscounted_empty :
    let model : Model :=
      { types := [{ token := ⟨0x02000002⟩ }, { token := ⟨0x02000003⟩, fields := [⟨0x04000001⟩] }]
        signatures := [⟨0x11000001⟩], blobs := [(⟨0x11000001⟩, [7])] }
    let config : RunConfig := { bufferCapacity := 1, strictReset := true }
    let run := fun (kind : Kind) (skew : Int) => (Run.image config "empty"
      (dispensers (model, {}) (model, { countSkew := some (kind, skew) })) []).run ({}, {})
    model.Signed ∧ (∀ query, query.kind ≠ .members → (model.items query).length < 0x80000000) ∧
    (∀ token ∈ model.signatures, ∀ bytes, model.blob? token = some bytes → bytes.length < 0x100000000) ∧
    (∃ summary state, run .typeRefs (-4) = (some summary, state) ∧ summary.isPass) ∧
    ∃ summary state record detail, run .members 2 = (some summary, state) ∧ summary.isPass = false ∧
      summary.firstFailure? = some record ∧ record.scenario = .resetEnum ∧
      record.outcome = .failed (some .current) (Failure.replayInconsistent .current detail).message none := by
  intro model config run
  have hsigned : model.Signed := by
    unfold Model.Signed
    decide
  have hlists : ∀ query, query.kind ≠ .members → (model.items query).length < 0x80000000 := by
    intro query _
    have hsize : model.size = 4 := by decide
    have hlength := model.length_items_le query
    omega
  have hcountable : model.Countable := Model.countable_of_size_lt (by decide) (by decide)
  refine ⟨hsigned, hlists, hcountable.length_blob_lt, ?_, ?_⟩
  · obtain ⟨summary, state, hrun, hverdict, -⟩ := image_miscounted model hsigned hlists hcountable.length_blob_lt
      .typeRefs (-4) (by decide) config "empty" [] ({}, {})
    obtain ⟨-, hiff, -⟩ := hverdict (by decide)
    refine ⟨summary, state, hrun, ?_⟩
    rw [← Bool.not_eq_false, hiff]
    rintro (⟨hpos, -⟩ | ⟨-, ⟨query, counted⟩, ⟨hkind, -⟩, hitems⟩)
    · exact absurd hpos (by decide)
    · cases query with
      | typeRefs => exact hitems rfl
      | _ => cases hkind
  · obtain ⟨summary, state, hrun, -, hverdict⟩ := image_miscounted model hsigned hlists hcountable.length_blob_lt
      .members 2 (by decide) config "empty" [] ({}, {})
    obtain ⟨-, hiff, hfailed⟩ := hverdict rfl
    have hfails : summary.isPass = false := hiff.mpr ⟨_, rfl, .inr (by decide)⟩
    obtain ⟨type, htype, record, hfirst, hscenario, houtcome⟩ := hfailed hfails
    obtain rfl := Option.some.inj htype
    rw [if_pos (by decide)] at houtcome
    obtain ⟨detail, houtcome⟩ := houtcome
    exact ⟨summary, state, record, detail, hrun, hfails, hfirst, hscenario, houtcome⟩

end Memory

end MetaParity
