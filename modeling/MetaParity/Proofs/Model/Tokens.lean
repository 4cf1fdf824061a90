import MetaParity.Proofs.Model.Rows
import MetaParity.Proofs.Model.WellFormed
import Mathlib.Algebra.Order.BigOperators.Group.List
import Mathlib.Algebra.Order.Group.Nat

/-! # All tokens of a model

The tokens of a model table by table, and models that number them: every table has the rows from a first one on, so no
token occurs twice and enumerations yield the tables row after row. -/

namespace MetaParity

theorem Table.mem_all (table : Table) : table ∈ Table.all := by
  cases table <;> decide

theorem Table.pairwise_all : Table.all.Pairwise (·.code < ·.code) := by
  decide

theorem Token.nodup_of_pairwise_lt {tokens : List Token} (h : tokens.Pairwise (·.raw < ·.raw)) : tokens.Nodup := by
  refine h.imp fun {token token'} hlt => ?_
  rintro rfl
  exact UInt32.lt_irrefl _ hlt

namespace Model

def tokensOf (model : Model) : Table → List Token
  | .typeDef => model.types.map (·.token)
  | .interfaceImpl => model.types.flatMap (·.interfaceImpls)
  | .methodDef => model.types.flatMap (·.methods.map (·.token))
  | .paramDef => model.types.flatMap (·.methods.flatMap (·.params))
  | .fieldDef => model.types.flatMap (·.fields)
  | .property => model.types.flatMap (·.properties)
  | .event => model.types.flatMap (·.events)
  | .typeRef => model.typeRefs
  | .typeSpec => model.typeSpecs
  | .moduleRef => model.moduleRefs
  | .signature => model.signatures
  | .userString => model.userStrings
  | .module | .memberRef => []

def tokens (model : Model) : List Token :=
  Table.all.flatMap model.tokensOf

/-- What enumerations yield of a table: below every type in turn, and below every method in turn. -/
def enumerated (model : Model) : Table → List Token
  | .typeDef => model.items .typeDefs
  | .interfaceImpl => (model.items .typeDefs).flatMap fun type => model.items (.interfaceImpls type)
  | .methodDef => (model.items .typeDefs).flatMap fun type => model.items (.methods type)
  | .paramDef => (model.items .typeDefs).flatMap fun type =>
      (model.items (.methods type)).flatMap fun method => model.items (.params method)
  | .fieldDef => (model.items .typeDefs).flatMap fun type => model.items (.fields type)
  | .property => (model.items .typeDefs).flatMap fun type => model.items (.properties type)
  | .event => (model.items .typeDefs).flatMap fun type => model.items (.events type)
  | .typeRef => model.items .typeRefs
  | .typeSpec => model.items .typeSpecs
  | .moduleRef => model.items .moduleRefs
  | .signature => model.items .signatures
  | .userString => model.items .userStrings
  | .module | .memberRef => []

variable {model : Model}

/-- Enumerations miss no token and yield none twice. -/
theorem WellFormed.enumerated_eq (h : model.WellFormed) (table : Table) :
    model.enumerated table = model.tokensOf table := by
  have hparams : ∀ type ∈ model.types, ∀ method ∈ type.methods, model.items (.params method.token) = method.params := by
    intro type htype method hmethod
    rw [items, h.method?_eq htype hmethod]
    rfl
  cases table with
  | interfaceImpl | methodDef | fieldDef | property | event =>
      rw [enumerated, items, List.flatMap_map]
      exact List.flatMap_congr fun type hmem => h.below_eq hmem _
  | paramDef =>
      rw [enumerated, items, List.flatMap_map]
      refine List.flatMap_congr fun type hmem => ?_
      rw [items, h.below_eq hmem, List.flatMap_map]
      exact List.flatMap_congr fun method hmethod => hparams type hmem method hmethod
  | typeDef | typeRef | typeSpec | moduleRef | signature | userString | module | memberRef => rfl

/-! ## How many tokens there are -/

theorem foldr_params (methods : List Method) :
    methods.foldr (fun method rest => 1 + method.params.length + rest) 1 =
      1 + methods.length + (methods.flatMap (·.params)).length := by
  induction methods with
  | nil => rfl
  | cons method methods ih =>
      rw [List.foldr_cons, ih, List.length_cons, List.flatMap_cons, List.length_append]
      omega

theorem length_tokens (model : Model) : model.tokens.length = model.size := by
  have htypes : ∀ types : List TypeDef, types.foldr (fun type rest => type.size + rest) 0 =
      types.length + (types.flatMap (·.interfaceImpls)).length + (types.flatMap (·.methods.map (·.token))).length
        + (types.flatMap (·.methods.flatMap (·.params))).length + (types.flatMap (·.fields)).length
        + (types.flatMap (·.properties)).length + (types.flatMap (·.events)).length := by
    intro types
    induction types with
    | nil => rfl
    | cons type types ih =>
        rw [List.foldr_cons, ih]
        simp only [List.flatMap_cons, List.length_append, List.length_cons, List.length_map, TypeDef.size,
          foldr_params]
        omega
  have htokens : model.tokens.length = (Table.all.map fun table => (model.tokensOf table).length).sum :=
    List.length_flatMap
  simp only [htokens, Table.all, List.map_cons, List.map_nil, List.sum_cons, List.sum_nil, tokensOf, List.length_nil,
    List.length_map, size, htypes]
  omega

/-! ## Numbered tables -/

/-- The tokens of every table are its rows from a first one on, which 24 bits hold. -/
structure Numbered (model : Model) (first count : Table → Nat) : Prop where
  tokensOf_eq : ∀ table, model.tokensOf table = (List.range' (first table) (count table)).map (rowToken table)
  first_pos : ∀ table, 0 < first table
  le : ∀ table, first table + count table ≤ 0x1000000

namespace Numbered

variable {first count : Table → Nat} {table : Table} {token : Token}

theorem exists_row (h : model.Numbered first count) (hmem : token ∈ model.tokensOf table) :
    ∃ row, token = rowToken table row ∧ 0 < row ∧ row < 0x1000000 := by
  rw [h.tokensOf_eq] at hmem
  obtain ⟨row, hrow, rfl⟩ := List.mem_map.mp hmem
  have hfirst := h.first_pos table
  have hle := h.le table
  have hrow := List.mem_range'_1.mp hrow
  exact ⟨row, rfl, by omega, by omega⟩

/-- Tokens ascend, within every table and from table to table. -/
theorem pairwise_tokens (h : model.Numbered first count) : model.tokens.Pairwise (·.raw < ·.raw) := by
  refine List.pairwise_flatMap.mpr ⟨fun table _ => ?_, Table.pairwise_all.imp fun {table table'} hcode => ?_⟩
  · have hle := h.le table
    rw [h.tokensOf_eq, List.pairwise_map]
    refine List.Pairwise.imp_of_mem (fun {row row'} hrow hrow' hlt => ?_) List.pairwise_lt_range'
    have hrow := List.mem_range'_1.mp hrow
    have hrow' := List.mem_range'_1.mp hrow'
    exact rowToken_lt (by omega) (by omega) (.inr ⟨rfl, hlt⟩)
  · intro token hmem token' hmem'
    obtain ⟨row, rfl, -, hrow⟩ := h.exists_row hmem
    obtain ⟨row', rfl, -, hrow'⟩ := h.exists_row hmem'
    exact rowToken_lt hrow hrow' (.inl hcode)

theorem nodup_tokens (h : model.Numbered first count) : model.tokens.Nodup :=
  Token.nodup_of_pairwise_lt h.pairwise_tokens

theorem nodup_tokensOf (h : model.Numbered first count) (table : Table) : (model.tokensOf table).Nodup :=
  (List.pairwise_flatMap.mp h.nodup_tokens).1 table table.mem_all

theorem isNil_eq_false (h : model.Numbered first count) (hmem : token ∈ model.tokens) : token.isNil = false := by
  obtain ⟨table, -, hmem⟩ := List.mem_flatMap.mp hmem
  obtain ⟨row, rfl, hpos, hrow⟩ := h.exists_row hmem
  rw [isNil_rowToken table hrow, decide_eq_false_iff_not]
  omega

theorem parts_eq (h : model.Numbered first count) (table : Table) :
    ((model.tokensOf table).map fun token => (token.table, token.row.toNat)) =
      (List.range' (first table) (count table)).map (table.code, ·) := by
  rw [h.tokensOf_eq, List.map_map]
  refine List.map_congr_left fun row hmem => ?_
  have hle := h.le table
  have hrow := List.mem_range'_1.mp hmem
  have hlt : row < 0x1000000 := by omega
  simp [toNat_row_rowToken table hlt]

theorem holds (h : model.Numbered first count) (table : Table) : table.Holds (model.tokensOf table) := by
  intro token hmem
  obtain ⟨row, rfl, -, -⟩ := h.exists_row hmem
  exact table_rowToken table row

theorem tabled (h : model.Numbered first count) : ∀ type ∈ model.types, type.Tabled := by
  intro type hmem
  exact {
    token := fun token htoken => h.holds .typeDef token (by
      rw [List.mem_singleton.mp htoken]
      exact List.mem_map_of_mem hmem)
    interfaceImpls := fun token htoken => h.holds .interfaceImpl token (List.mem_flatMap_of_mem hmem htoken)
    methods := fun token htoken => h.holds .methodDef token (List.mem_flatMap_of_mem hmem htoken)
    params := fun method hmethod token htoken => h.holds .paramDef token
      (List.mem_flatMap_of_mem hmem (List.mem_flatMap_of_mem hmethod htoken))
    fields := fun token htoken => h.holds .fieldDef token (List.mem_flatMap_of_mem hmem htoken)
    properties := fun token htoken => h.holds .property token (List.mem_flatMap_of_mem hmem htoken)
    events := fun token htoken => h.holds .event token (List.mem_flatMap_of_mem hmem htoken) }

theorem size_lt (h : model.Numbered first count) : model.size < 0x100000000 := by
  have hlength : ∀ table, (model.tokensOf table).length < 0x1000000 := by
    intro table
    have hfirst := h.first_pos table
    have hle := h.le table
    rw [h.tokensOf_eq, List.length_map, List.length_range']
    omega
  have hsum := List.sum_le_card_nsmul (Table.all.map fun table => (model.tokensOf table).length) 0x1000000 (by
    intro length hmem
    obtain ⟨table, -, rfl⟩ := List.mem_map.mp hmem
    exact Nat.le_of_lt (hlength table))
  rw [← length_tokens, tokens, List.length_flatMap]
  exact Nat.lt_of_le_of_lt hsum (by rw [List.length_map]; decide)

/-- A model that numbers its tables is well-formed, unless it has a huge blob. -/
theorem wellFormed (h : model.Numbered first count) (hblobs : ∀ blob ∈ model.blobs, blob.2.length < 0x100000000) :
    model.WellFormed where
  toCountable := countable_of_size_lt h.size_lt hblobs
  types_nodup := h.nodup_tokensOf .typeDef
  methods_nodup := by
    rw [List.map_flatMap]
    exact h.nodup_tokensOf .methodDef
  tabled := h.tabled

end Numbered

end Model

end MetaParity
