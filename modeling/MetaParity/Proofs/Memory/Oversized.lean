import MetaParity.Proofs.Memory.Miscount
import MetaParity.Proofs.Memory.Resolution
import MetaParity.Proofs.Memory.Verdict

/-! # Signatures that 32 bits do not count

A blob may be longer than the length that is listed of it can say. The scenario that lists lengths fails there, whatever
the other side holds. -/

namespace MetaParity.Memory

variable {model : Model} {before after : List Token} {token : Token} {bytes : Bytes}

theorem collected_of_length_lt (hlength : model.signatures.length < 0x100000000) (capacity : Nat) :
    collected model {} .signatures capacity = .ok model.signatures := by
  have hskew : Iterator.skew {} ⟨Query.signatures, none⟩ = 0 := rfl
  have hreported : reported model {} .signatures = model.signatures.length := by
    rw [reported, hskew, Model.items]
    omega
  have hoverrun : ¬Overruns model {} .signatures := not_overruns rfl .signatures
  have hproduced : produced model {} .signatures = model.signatures := if_neg hoverrun
  have hfault : Iterator.fault? {} ⟨Query.signatures, none⟩ = none := rfl
  rw [collected, hfault, hproduced, hreported]
  simp only [hoverrun, false_and, if_false, if_true]

theorem enumerates_sigFromToken_of_oversized (hsignatures : model.signatures = before ++ token :: after)
    (hlength : model.signatures.length < 0x100000000)
    (hbefore : ∀ earlier ∈ before, ∃ bytes, model.blob? earlier = some bytes ∧ bytes.length < 0x100000000)
    (hblob : model.blob? token = some bytes) (hlong : 0x100000000 ≤ bytes.length) (capacity : Nat) (side : Side)
    (strictReset : Bool) :
    Enumerates (Scenario.sigFromToken.run (Lister.of (session model {}) capacity) side strictReset)
      (.error (.lookupFailed token .invalidArgument)) 1 := by
  have hmeasured {other : Token} {held : Bytes} (hheld : model.blob? other = some held) :
      measured model {} other = if held.length < 0x100000000 then .ok ⟨0, held.length⟩
        else .error (.lookupFailed other .invalidArgument) := by
    rw [measured, lookedUp, signature, hheld]
    rfl
  have hfails : model.signatures.mapM (measured model {}) = .error (.lookupFailed token .invalidArgument) := by
    rw [hsignatures]
    refine mapM_eq_error (fun earlier hmem => ?_) ?_
    · obtain ⟨held, hheld, hfits⟩ := hbefore earlier hmem
      exact ⟨_, (hmeasured hheld).trans (if_pos hfits)⟩
    · exact (hmeasured hblob).trans (if_neg (Nat.not_lt.mpr hlong))
  have hresolve := enumerates_measuredSignatures model {} capacity
  rw [collected_of_length_lt hlength] at hresolve
  have hanswer := hresolve.map Listing.records
  change Enumerates _ (Listing.records <$> model.signatures.mapM (measured model {})) 1 at hanswer
  rw [hfails] at hanswer
  exact hanswer

/-- No run that lists the lengths of such a baseline passes. -/
theorem exists_image_of_oversized (hsignatures : model.signatures = before ++ token :: after)
    (hlength : model.signatures.length < 0x100000000)
    (hbefore : ∀ earlier ∈ before, ∃ bytes, model.blob? earlier = some bytes ∧ bytes.length < 0x100000000)
    (hblob : model.blob? token = some bytes) (hlong : 0x100000000 ≤ bytes.length) {current : Model × FaultPlan}
    (hcurrent : current.2.opening = none) {config : RunConfig} (hconfig : .sigFromToken ∈ config.scenarios)
    (name : String) (image : Bytes) (state : DispenserState × DispenserState) :
    ∃ (summary : ImageSummary) (state' : DispenserState × DispenserState),
      (Run.image config name (dispensers (model, {}) current) image).run state = (some summary, state') ∧
      summary.isPass = false := by
  have hanswer (side : Side) (scenario : Scenario) := exists_yields_scenario (side.pick ((model, {}), current)).1
    (side.pick ((model, {}), current)).2 config.bufferCapacity scenario side config.strictReset
  choose answers hanswers using hanswer
  have hlengths : answers .baseline .sigFromToken = .error (.lookupFailed token .invalidArgument) :=
    (enumerates_sigFromToken_of_oversized hsignatures hlength hbefore hblob hlong config.bufferCapacity .baseline
      config.strictReset).eq_of_yields (hanswers .baseline .sigFromToken)
  have hopen : (dispensers (model, {}) current).openScope image state = _ :=
    openScope_of_opening rfl hcurrent image state
  obtain ⟨summary, state', hrun, -, hpass⟩ := (settled_pairAt hanswers state.1.tables.length
    state.2.tables.length).sessions name (s := ({ state.1 with tables := state.1.tables ++ [{}] },
      { state.2 with tables := state.2.tables ++ [{}] })) (by simp [HoldsAt])
  refine ⟨summary, _, Run.image_eq_of_openScope hopen hrun, ?_⟩
  rw [← Bool.not_eq_true, hpass]
  intro hsame
  have hsigFromToken := hsame .sigFromToken hconfig
  rw [hlengths] at hsigFromToken
  exact Listing.not_same_error_left _ _ hsigFromToken

/-! ## One signature -/

def signedBy (bytes : Bytes) : Model where
  signatures := [⟨0x11000001⟩]
  blobs := [(⟨0x11000001⟩, bytes)]

theorem blob?_signedBy (bytes : Bytes) : (signedBy bytes).blob? ⟨0x11000001⟩ = some bytes := rfl

theorem signed_signedBy (bytes : Bytes) : (signedBy bytes).Signed := by
  simp [Model.Signed, signedBy, Model.blob?, Blobs.get?]

theorem length_items_signedBy (bytes : Bytes) (query : Query) : ((signedBy bytes).items query).length ≤ 1 :=
  (signedBy bytes).length_items_le query

theorem exists_image_signedBy {bytes : Bytes} (hlong : 0x100000000 ≤ bytes.length) {current : Model × FaultPlan}
    (hcurrent : current.2.opening = none) {config : RunConfig} (hconfig : .sigFromToken ∈ config.scenarios)
    (name : String) :
    ∃ (summary : ImageSummary) (state : DispenserState × DispenserState),
      (Run.image config name (dispensers (signedBy bytes, {}) current) []).run ({}, {}) = (some summary, state) ∧
      summary.isPass = false :=
  exists_image_of_oversized (List.nil_append _).symm
    (Nat.lt_of_le_of_lt (length_items_signedBy bytes .signatures) (by decide)) (by simp) (blob?_signedBy bytes) hlong
    hcurrent hconfig name [] ({}, {})

/-- A model does not pass beside itself, though it is well-formed but for the blob, and its signature has one. -/
theorem image_isPass_oversized :
    let model := signedBy (List.replicate 0x100000000 0)
    (model.types.map (·.token)).Nodup ∧ ((model.types.flatMap (·.methods)).map (·.token)).Nodup ∧
    (∀ type ∈ model.types, type.Tabled) ∧ (∀ query, (model.items query).length < 0x100000000) ∧
    model.Signed ∧ model.Agree model ∧
    ∃ (summary : ImageSummary) (state : DispenserState × DispenserState),
      (Run.image {} "oversized" (dispensers (model, {}) (model, {})) []).run ({}, {}) = (some summary, state) ∧
      summary.isPass = false := by
  intro model
  have hlong : 0x100000000 ≤ (List.replicate 0x100000000 (0 : UInt8)).length :=
    Nat.le_of_eq List.length_replicate.symm
  refine ⟨.nil, .nil, fun type hmem => absurd hmem List.not_mem_nil, fun query => ?_, signed_signedBy _,
    ⟨rfl, rfl, rfl, rfl, rfl, rfl, fun _ _ => rfl⟩, exists_image_signedBy hlong rfl (by decide) "oversized"⟩
  exact Nat.lt_of_le_of_lt (length_items_signedBy _ query) (by decide)

/-- Both sides list the same length. -/
theorem image_verdict_oversized :
    let model := signedBy (List.replicate 0x100000000 0)
    let config : RunConfig := { scenarios := [.sigFromToken] }
    (∀ query, (model.items query).length < 0x100000000) ∧
    (∀ scenario ∈ config.scenarios, model.ListsAs model scenario) ∧
    ∃ (summary : ImageSummary) (state : DispenserState × DispenserState),
      (Run.image config "oversized" (dispensers (model, {}) (model, {})) []).run ({}, {}) = (some summary, state) ∧
      summary.isPass = false := by
  intro model config
  have hlong : 0x100000000 ≤ (List.replicate 0x100000000 (0 : UInt8)).length :=
    Nat.le_of_eq List.length_replicate.symm
  refine ⟨fun query => ?_, fun scenario _ => ?_, exists_image_signedBy hlong rfl (by decide) "oversized"⟩
  · exact Nat.lt_of_le_of_lt (length_items_signedBy _ query) (by decide)
  · obtain ⟨listing, hlisting⟩ := Model.exists_listing ((signed_signedBy _).unresolved?_eq_none scenario)
    exact ⟨listing, hlisting, hlisting⟩

/-- Nothing is miscounted where there are no type references, and yet the run fails. Members of which fewer are reported
than there are differ with and without a check. -/
theorem image_miscounted_oversized :
    let model := signedBy (List.replicate 0x100000000 0)
    let counted : Model := { types := [{ token := ⟨0x02000002⟩, fields := [⟨0x04000001⟩] }] }
    let config : RunConfig := { strictReset := true }
    let run := fun (model : Model) (kind : Kind) => (Run.image config "miscounted"
      (dispensers (model, {}) (model, { countSkew := some (kind, -1) })) []).run ({}, {})
    (∀ query, (model.items query).length < 0x80000000) ∧ model.Signed ∧
    (¬∃ visit, model.Reached .typeRefs visit ∧
      max 0 (((model.items visit.query).length : Int) + -1) ≠ (model.items visit.query).length) ∧
    (∃ summary state, run model .typeRefs = (some summary, state) ∧ summary.isPass = false) ∧
    (∀ query, (counted.items query).length < 0x80000000) ∧ counted.Signed ∧
    ∃ summary state record, ∃ divergence : Divergence, run counted .members = (some summary, state) ∧
      summary.firstFailure? = some record ∧ record.scenario = .resetEnum ∧
      record.outcome = .failed none divergence.text (some divergence) := by
  intro model counted config run
  have hlong : 0x100000000 ≤ (List.replicate 0x100000000 (0 : UInt8)).length :=
    Nat.le_of_eq List.length_replicate.symm
  have hcounted : ∀ query, (counted.items query).length ≤ 2 := counted.length_items_le
  have hsigned : counted.Signed := fun token hmem => absurd hmem List.not_mem_nil
  refine ⟨fun query => ?_, signed_signedBy _, ?_, exists_image_signedBy hlong rfl (by decide) "miscounted",
    fun query => ?_, hsigned, ?_⟩
  · exact Nat.lt_of_le_of_lt (length_items_signedBy _ query) (by decide)
  · rintro ⟨⟨query, counted⟩, ⟨hkind, -⟩, hwrong⟩
    cases query with
    | typeRefs => exact hwrong rfl
    | _ => cases hkind
  · exact Nat.lt_of_le_of_lt (hcounted query) (by decide)
  · have hlists : ∀ query, (counted.items query).length < 0xffffffff := fun query =>
      Nat.lt_of_le_of_lt (hcounted query) (by decide)
    have hcountable : counted.Countable := Model.countable_of_size_lt (by decide) (by decide)
    obtain ⟨state, hrun⟩ :=
      exists_image_eq_summaryUnder hcountable .members (-1) config "miscounted" [] ({}, {})
    have hfails : (summaryUnder counted .members (-1) config "miscounted").isPass = false := by
      rw [isPass_members_iff hlists hsigned]
      decide +kernel
    obtain ⟨type, htype, record, hfirst, hscenario, houtcome⟩ :=
      exists_failed_replay hlists hsigned (by decide) hfails
    obtain rfl := Option.some.inj htype
    rw [if_neg (by decide)] at houtcome
    obtain ⟨divergence, houtcome⟩ := houtcome
    exact ⟨_, state, record, divergence, hrun, hfirst, hscenario, houtcome⟩

end MetaParity.Memory
