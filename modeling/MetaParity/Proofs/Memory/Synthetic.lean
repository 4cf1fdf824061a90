import MetaParity.Proofs.Memory.Listing
import MetaParity.Proofs.Model.Allocation

/-! # Sessions over synthetic models

Every scenario succeeds on a session without faults whose model is countable and has a blob for every signature, and
synthetic models are of that sort as long as their rows fit into tokens. -/

namespace MetaParity

theorem Memory.exists_listing_of_signed {model : Model} (hcountable : model.Countable) (hsigned : model.Signed)
    (scenario : Scenario) : ∃ listing, model.listing scenario = .ok listing ∧
      ∀ capacity side strictReset,
        Drive.Yields Idle (scenario.run (Lister.of (session model {}) capacity) side strictReset) (.ok listing) Idle := by
  obtain ⟨listing, hlisting⟩ := Model.exists_listing (hsigned.unresolved?_eq_none scenario)
  refine ⟨listing, hlisting, fun capacity side strictReset => ?_⟩
  rw [← hlisting, ← listingUnder_eq model hcountable side strictReset scenario]
  exact yields_scenario model none capacity hcountable scenario side strictReset

namespace Model

/-- As long as 24 bits hold its rows, a synthetic model is what nested loops make that hand out rows. It has no token
twice and none that is nil, and every scenario succeeds over it. -/
theorem synthetic_sound (types methods params fields : Nat) (htypes : types ≤ 0xfffffe)
    (hmethods : types * methods < 0x1000000) (hparams : types * methods * params < 0x1000000)
    (hfields : types * fields < 0x1000000) :
    let model := synthetic types methods params fields
    allocated types methods params fields = model ∧
    model.tokens.Nodup ∧ (∀ token ∈ model.tokens, token.isNil = false) ∧
    (∀ table, model.enumerated table = model.tokensOf table ∧
      (model.tokensOf table).map (fun token => (token.table, token.row.toNat)) =
        (List.range' (if table = .typeDef then 2 else 1) (model.tokensOf table).length).map (table.code, ·)) ∧
    model.blobs.map (·.1) = model.tokensOf .fieldDef ++ model.tokensOf .methodDef ++ model.tokensOf .signature ∧
    (∀ scenario capacity side, ∀ state, Memory.Idle state → ∃ listing, model.listing scenario = .ok listing ∧
      let run := (scenario.run (Lister.of (Memory.session model {}) capacity) side true).run state
      run.1 = .ok listing ∧ Memory.Idle run.2) ∧
    ∃ tokens, model.listing .typeHierarchy = .ok (.tokens tokens) ∧
      tokens.length = types * (1 + methods * (1 + params) + fields) := by
  have hfit := rowsFit_iff.mpr ⟨htypes, hmethods, hparams, hfields⟩
  have hnumbered := numbered_synthetic hfit
  have hwellFormed := wellFormed_synthetic hfit
  refine ⟨allocated_eq_synthetic hfit, hnumbered.nodup_tokens, fun _ hmem => hnumbered.isNil_eq_false hmem,
    fun table => ⟨?_, ?_⟩, ?_, ?_, ?_⟩
  · exact hwellFormed.enumerated_eq table
  · have hlength : ((synthetic types methods params fields).tokensOf table).length =
        types * rowsPerType methods params fields table := by
      rw [hnumbered.tokensOf_eq, List.length_map, List.length_range']
    rw [hlength]
    exact hnumbered.parts_eq table
  · rw [blobs_synthetic hfit, keys_blobsInOrder]
  · intro scenario capacity side state hidle
    obtain ⟨listing, hlisting, hyields⟩ :=
      Memory.exists_listing_of_signed hwellFormed.toCountable (signed_synthetic hfit) scenario
    exact ⟨listing, hlisting, hyields capacity side true state hidle⟩
  · exact ⟨_, rfl, length_typeHierarchy_synthetic hfit⟩

/-- Two types with one method of two parameters and one field each, listed by pages of three. -/
theorem synthetic_sound_two :
    let model := synthetic 2 1 2 1
    (2 ≤ 0xfffffe ∧ 2 * 1 < 0x1000000 ∧ 2 * 1 * 2 < 0x1000000) ∧ Memory.Idle {} ∧
    allocated 2 1 2 1 = model ∧ model.tokens.Nodup ∧ (∀ token ∈ model.tokens, token.isNil = false) ∧
    (model.enumerated .typeDef).map (fun token => (token.table, token.row.toNat)) = [(0x02, 2), (0x02, 3)] ∧
    (model.enumerated .paramDef).map (fun token => (token.table, token.row.toNat)) =
      [(0x08, 1), (0x08, 2), (0x08, 3), (0x08, 4)] ∧
    model.blobs.map (·.1.raw) = [0x04000001, 0x04000002, 0x06000001, 0x06000002, 0x11000001, 0x11000002] ∧
    (∀ scenario, ∃ listing, model.listing scenario = .ok listing ∧
      ((scenario.run (Lister.of (Memory.session model {}) 3) .current true).run {}).1 = .ok listing) ∧
    (∃ tokens, model.listing .typeHierarchy = .ok (.tokens tokens) ∧ tokens.length = 10) := by
  have hidle : Memory.Idle {} := rfl
  obtain ⟨hallocated, hnodup, hnil, htables, hblobs, hscenarios, hhierarchy⟩ :=
    synthetic_sound 2 1 2 1 (by decide) (by decide) (by decide) (by decide)
  refine ⟨by decide, hidle, hallocated, hnodup, hnil, ?_, ?_, ?_, fun scenario => ?_, hhierarchy⟩
  · rw [(htables .typeDef).1, (htables .typeDef).2]
    decide +kernel
  · rw [(htables .paramDef).1, (htables .paramDef).2]
    decide +kernel
  · have hkeys := congrArg (List.map Token.raw) hblobs
    rw [List.map_map] at hkeys
    refine hkeys.trans ?_
    decide +kernel
  · obtain ⟨listing, hlisting, hrun, -⟩ := hscenarios scenario 3 .current {} hidle
    exact ⟨listing, hlisting, hrun⟩

end Model

end MetaParity
