import MetaParity.Proofs.Model.Agreement
import MetaParity.Proofs.Model.Blobs
import MetaParity.Proofs.Model.Tokens
import Mathlib.Data.List.Flatten

/-! # Synthetic models are well-formed

Every type brings the same number of rows to each table, and the rows of all types lie one behind the other. As long as
24 bits hold them all, the model numbers its tables. -/

namespace MetaParity.Model

def firstRow (table : Table) : Nat :=
  if table = .typeDef then 2 else 1

/-- How many rows of a table every type of a synthetic model takes up. -/
def rowsPerType (methods params fields : Nat) : Table → Nat
  | .typeDef | .typeRef | .userString | .signature => 1
  | .methodDef => methods
  | .paramDef => methods * params
  | .fieldDef => fields
  | _ => 0

/-! ## Rows one behind the other -/

theorem map_rowToken_range (table : Table) (first count : Nat) :
    ((List.range count).map fun k => rowToken table (k + first)) = (List.range' first count).map (rowToken table) := by
  rw [List.range'_eq_map_range, List.map_map]
  exact List.map_congr_left fun k _ => by rw [Function.comp, Nat.add_comm]

theorem flatMap_rowToken_range (table : Table) (first n m : Nat) :
    ((List.range n).flatMap fun i => (List.range m).map fun k => rowToken table (i * m + k + first)) =
      (List.range' first (n * m)).map (rowToken table) := by
  rw [← map_rowToken_range, ← range_flatMap_range, List.map_flatMap]
  simp only [List.map_map, Function.comp_def]

variable (types methods params fields : Nat)

theorem tokensOf_synthetic (table : Table) :
    (synthetic types methods params fields).tokensOf table =
      (List.range' (firstRow table) (types * rowsPerType methods params fields table)).map (rowToken table) := by
  cases table with
  | typeDef | typeRef | signature | userString =>
      simp [tokensOf, synthetic, syntheticType, firstRow, rowsPerType, ← map_rowToken_range]
  | methodDef =>
      simp [tokensOf, synthetic, syntheticType, syntheticMethod, firstRow, rowsPerType, ← flatMap_rowToken_range,
        List.flatMap_map, Function.comp_def]
  | fieldDef =>
      simp [tokensOf, synthetic, syntheticType, firstRow, rowsPerType, ← flatMap_rowToken_range, List.flatMap_map]
  | paramDef =>
      have hfirst : firstRow .paramDef = 1 := rfl
      rw [hfirst, rowsPerType, ← Nat.mul_assoc, ← flatMap_rowToken_range, ← range_flatMap_range, List.flatMap_assoc]
      simp [tokensOf, synthetic, syntheticType, syntheticMethod, List.flatMap_map]
  | module | memberRef | interfaceImpl | event | property | moduleRef | typeSpec =>
      simp [tokensOf, synthetic, syntheticType, rowsPerType]

variable {types methods params fields : Nat}

theorem firstRow_pos (table : Table) : 0 < firstRow table := by
  cases table <;> decide

def RowsFit (types methods params fields : Nat) : Prop :=
  ∀ table, firstRow table + types * rowsPerType methods params fields table ≤ 0x1000000

theorem rowsFit_iff : RowsFit types methods params fields ↔
    types ≤ 0xfffffe ∧ types * methods < 0x1000000 ∧ types * methods * params < 0x1000000 ∧
      types * fields < 0x1000000 := by
  rw [Nat.mul_assoc]
  constructor
  · intro h
    have htypes := h .typeDef
    have hmethods := h .methodDef
    have hparams := h .paramDef
    have hfields := h .fieldDef
    simp only [firstRow, rowsPerType, reduceCtorEq, if_true, if_false] at htypes hmethods hparams hfields
    omega
  · rintro ⟨htypes, hmethods, hparams, hfields⟩ table
    cases table <;> simp only [firstRow, rowsPerType, reduceCtorEq, if_true, if_false] <;> omega

theorem numbered_synthetic (h : RowsFit types methods params fields) :
    (synthetic types methods params fields).Numbered firstRow (types * rowsPerType methods params fields ·) where
  tokensOf_eq := tokensOf_synthetic types methods params fields
  first_pos := firstRow_pos
  le := h

/-- Rows that do not fit come back to row 0, which is nil. -/
theorem forall_isNil_eq_false_iff :
    (∀ token ∈ (synthetic types methods params fields).tokens, token.isNil = false) ↔
      RowsFit types methods params fields := by
  refine ⟨fun h table => ?_, fun h token => (numbered_synthetic h).isNil_eq_false⟩
  by_contra hlarge
  have hfirst : firstRow table ≤ 0x1000000 := by
    cases table <;> decide
  have hmem : rowToken table 0x1000000 ∈ (synthetic types methods params fields).tokensOf table := by
    rw [tokensOf_synthetic]
    exact List.mem_map_of_mem (List.mem_range'_1.mpr ⟨hfirst, by omega⟩)
  have hnil := h _ (List.mem_flatMap_of_mem table.mem_all hmem)
  cases table <;> exact absurd hnil (by decide)

/-! ## Blobs -/

def blobsInOrder (model : Model) (params : Nat) : Blobs :=
  (model.tokensOf .fieldDef).map (·, [0x06, 0x08]) ++ (model.tokensOf .methodDef).map (·, methodBlob params)
    ++ (model.tokensOf .signature).map (·, [0x07, 0x01, 0x08])

theorem keys_blobsInOrder (model : Model) (params : Nat) :
    (model.blobsInOrder params).map (·.1) =
      model.tokensOf .fieldDef ++ model.tokensOf .methodDef ++ model.tokensOf .signature := by
  simp [blobsInOrder, Function.comp_def]

theorem length_methodBlob_le (params : Nat) : (methodBlob params).length ≤ 0x102 := by
  have hcount : min params 255 ≤ 255 := Nat.min_le_right _ _
  simp only [methodBlob, List.length_append, List.length_cons, List.length_nil, List.length_replicate]
  omega

theorem length_blobsInOrder_le {model : Model} :
    ∀ blob ∈ model.blobsInOrder params, blob.2.length ≤ 0x102 := by
  have hlength := length_methodBlob_le params
  simp only [blobsInOrder, List.forall_mem_append, List.forall_mem_map]
  exact ⟨⟨fun _ _ => by decide, fun _ _ => hlength⟩, fun _ _ => by decide⟩

theorem blobs_synthetic_eq_ofPairs : (synthetic types methods params fields).blobs =
    .ofPairs ((synthetic types methods params fields).blobsInOrder params) := by
  simp [blobsInOrder, tokensOf, synthetic, List.map_flatMap, List.flatMap_map, Function.comp_def]

theorem pairwise_keys_synthetic (h : RowsFit types methods params fields) :
    (((synthetic types methods params fields).blobsInOrder params).map (·.1)).Pairwise (·.raw < ·.raw) := by
  have htables : [Table.fieldDef, .methodDef, .signature].Sublist Table.all := by decide
  have hsublist := htables.flatMap (synthetic types methods params fields).tokensOf
  rw [keys_blobsInOrder]
  exact (numbered_synthetic h).pairwise_tokens.sublist (by simpa [tokens] using hsublist)

theorem blobs_synthetic (h : RowsFit types methods params fields) :
    (synthetic types methods params fields).blobs = (synthetic types methods params fields).blobsInOrder params := by
  rw [blobs_synthetic_eq_ofPairs]
  exact Blobs.ofPairs_eq_self (by simpa only [List.pairwise_map] using pairwise_keys_synthetic h)

/-! ## The whole model -/

theorem wellFormed_synthetic (h : RowsFit types methods params fields) :
    (synthetic types methods params fields).WellFormed := by
  refine (numbered_synthetic h).wellFormed fun blob hmem => ?_
  rw [blobs_synthetic h] at hmem
  exact Nat.lt_of_le_of_lt (length_blobsInOrder_le blob hmem) (by decide)

theorem signed_synthetic (h : RowsFit types methods params fields) :
    (synthetic types methods params fields).Signed := by
  intro token hmem
  rw [blob?, Blobs.isSome_get?_iff, blobs_synthetic h, keys_blobsInOrder]
  exact List.mem_append_right _ hmem

theorem length_typeHierarchy_synthetic (h : RowsFit types methods params fields) :
    ((synthetic types methods params fields).composed Walk.typeHierarchy).length =
      types * (1 + methods * (1 + params) + fields) := by
  have htype : ∀ index, ((syntheticType methods params fields index).token ::
      (syntheticType methods params fields index).hierarchy).length = 1 + methods * (1 + params) + fields := by
    intro index
    simp [TypeDef.hierarchy, TypeDef.methodGroups, syntheticType, syntheticMethod, List.flatMap_map, List.length_flatMap]
    rw [Nat.add_comm params 1]
    omega
  rw [(wellFormed_synthetic h).composed_typeHierarchy, List.length_flatMap]
  simp only [synthetic, List.map_map, Function.comp_def, htype]
  simp

end MetaParity.Model
