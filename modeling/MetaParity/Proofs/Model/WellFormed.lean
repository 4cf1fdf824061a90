import MetaParity.Proofs.Model.Blocks
import MetaParity.Proofs.Model.Items
import MetaParity.Proofs.Model.Listing

/-! # Well-formed models

Tokens name one type or method each and lie in tables of their own, so what is listed of a model without its nesting
can be read back. -/

namespace MetaParity

def Table.Holds (table : Table) (tokens : List Token) : Prop :=
  ∀ token ∈ tokens, token.table = table.code

instance (table : Table) (tokens : List Token) : Decidable (table.Holds tokens) :=
  inferInstanceAs (Decidable (∀ token ∈ tokens, token.table = table.code))

/-- Every token of a type lies in the table of its sort. -/
structure TypeDef.Tabled (type : TypeDef) : Prop where
  token : Table.typeDef.Holds [type.token]
  interfaceImpls : Table.interfaceImpl.Holds type.interfaceImpls
  methods : Table.methodDef.Holds (type.methods.map (·.token))
  params : ∀ method ∈ type.methods, Table.paramDef.Holds method.params
  fields : Table.fieldDef.Holds type.fields
  properties : Table.property.Holds type.properties
  events : Table.event.Holds type.events

instance (type : TypeDef) : Decidable type.Tabled :=
  decidable_of_iff
    (Table.typeDef.Holds [type.token] ∧ Table.interfaceImpl.Holds type.interfaceImpls ∧
      Table.methodDef.Holds (type.methods.map (·.token)) ∧
      (∀ method ∈ type.methods, Table.paramDef.Holds method.params) ∧ Table.fieldDef.Holds type.fields ∧
      Table.property.Holds type.properties ∧ Table.event.Holds type.events)
    ⟨fun ⟨token, impls, methods, params, fields, properties, events⟩ =>
      ⟨token, impls, methods, params, fields, properties, events⟩,
      fun h => ⟨h.token, h.interfaceImpls, h.methods, h.params, h.fields, h.properties, h.events⟩⟩

/-- No two types and no two methods share a token, tokens lie in their own tables, and 32 bits count every list. -/
structure Model.WellFormed (model : Model) : Prop extends model.Countable where
  types_nodup : (model.types.map (·.token)).Nodup
  methods_nodup : ((model.types.flatMap (·.methods)).map (·.token)).Nodup
  tabled : ∀ type ∈ model.types, type.Tabled

theorem find?_eq_some_of_nodup {α β : Type} [DecidableEq β] {f : α → β} {items : List α} (hnodup : (items.map f).Nodup)
    {item : α} (hmem : item ∈ items) : items.find? (f · = f item) = some item := by
  induction items with
  | nil => cases hmem
  | cons other items ih =>
      rw [List.map_cons, List.nodup_cons] at hnodup
      rcases List.mem_cons.mp hmem with rfl | hmem
      · simp
      · have hne : f other ≠ f item := fun heq => hnodup.1 (heq ▸ List.mem_map_of_mem hmem)
        rw [List.find?_cons_of_neg (by simpa using hne)]
        exact ih hnodup.2 hmem

namespace Model

variable {model : Model}

theorem countable_of_size_lt (hsize : model.size < 0x100000000)
    (hblobs : ∀ blob ∈ model.blobs, blob.2.length < 0x100000000) : model.Countable where
  length_items_lt query := Nat.lt_of_le_of_lt (model.length_items_le query) hsize
  length_blob_lt token _ bytes h := by
    obtain ⟨blob, hblob, rfl⟩ := Option.map_eq_some_iff.mp h
    exact hblobs blob (List.mem_of_find?_eq_some hblob)

theorem WellFormed.type?_eq (h : model.WellFormed) {type : TypeDef} (hmem : type ∈ model.types) :
    model.type? type.token = some type :=
  find?_eq_some_of_nodup h.types_nodup hmem

theorem WellFormed.method?_eq (h : model.WellFormed) {type : TypeDef} (htype : type ∈ model.types) {method : Method}
    (hmem : method ∈ type.methods) : model.method? method.token = some method :=
  find?_eq_some_of_nodup h.methods_nodup (List.mem_flatMap.mpr ⟨type, htype, hmem⟩)

theorem WellFormed.below_eq (h : model.WellFormed) {type : TypeDef} (hmem : type ∈ model.types)
    (list : TypeDef → List Token) : model.below type.token list = list type := by
  rw [below, h.type?_eq hmem]
  rfl

end Model

/-! ## What walks list -/

@[simp] theorem Walk.listed_leaf (model : Model) (query : Token → Query) (parent : Token) :
    (Walk.leaf query).listed model parent = model.items (query parent) := by
  simp [leaf, listed, allListed]

namespace TypeDef

def methodGroups (type : TypeDef) : List Token :=
  type.methods.flatMap fun method => method.token :: method.params

def hierarchy (type : TypeDef) : List Token :=
  type.interfaceImpls ++ (type.methodGroups ++ type.fields)

def propertiesEvents (type : TypeDef) : List Token :=
  type.properties ++ type.events

end TypeDef

namespace Model

variable {model : Model}

theorem composed_eq (model : Model) (walks : List Walk) :
    model.composed walks =
      model.types.flatMap fun type => type.token :: Walk.allListed model walks type.token := by
  rw [composed, items, List.flatMap_map]

theorem WellFormed.composed_typeHierarchy (h : model.WellFormed) :
    model.composed Walk.typeHierarchy = model.types.flatMap fun type => type.token :: type.hierarchy := by
  rw [composed_eq]
  refine List.flatMap_congr fun type hmem => ?_
  have hparams : ∀ method ∈ type.methods, model.items (.params method.token) = method.params := by
    intro method hmethod
    rw [items, h.method?_eq hmem hmethod]
    rfl
  have hmethods : (Walk.category .methods true [Walk.leaf .params]).listed model type.token = type.methodGroups := by
    rw [Walk.listed, items, h.below_eq hmem, List.flatMap_map]
    refine List.flatMap_congr fun method hmethod => ?_
    simp [Walk.allListed, hparams method hmethod]
  simp [Walk.typeHierarchy, Walk.allListed, hmethods, items, h.below_eq hmem, TypeDef.hierarchy]

theorem WellFormed.composed_propertiesEvents (h : model.WellFormed) :
    model.composed Walk.propertiesEvents = model.types.flatMap fun type => type.token :: type.propertiesEvents := by
  rw [composed_eq]
  refine List.flatMap_congr fun type hmem => ?_
  simp [Walk.propertiesEvents, Walk.allListed, items, h.below_eq hmem, TypeDef.propertiesEvents]

end Model

/-! ## Reading a type back -/

def Table.owns (table : Table) (token : Token) : Bool :=
  token.table == table.code

theorem Table.Holds.owns {table : Table} {tokens : List Token} (h : table.Holds tokens) :
    ∀ token ∈ tokens, table.owns token = true :=
  fun token hmem => beq_iff_eq.mpr (h token hmem)

theorem Table.Holds.owns_eq_false {table other : Table} {tokens : List Token} (h : table.Holds tokens)
    (hne : table.code ≠ other.code) : ∀ token ∈ tokens, other.owns token = false :=
  fun token hmem => beq_eq_false_iff_ne.mpr fun heq => hne ((h token hmem).symm.trans heq)

namespace TypeDef.Tabled

variable {type type' : TypeDef}

theorem owns_methodGroups (h : type.Tabled) {table : Table} (hmethod : Table.methodDef.code ≠ table.code)
    (hparam : Table.paramDef.code ≠ table.code) : ∀ token ∈ type.methodGroups, table.owns token = false := by
  intro token hmem
  obtain ⟨method, hmethods, hmem⟩ := List.mem_flatMap.mp hmem
  rcases List.mem_cons.mp hmem with rfl | hparams
  · exact h.methods.owns_eq_false hmethod _ (List.mem_map_of_mem hmethods)
  · exact (h.params method hmethods).owns_eq_false hparam token hparams

theorem owns_hierarchy (h : type.Tabled) : ∀ token ∈ type.hierarchy, Table.typeDef.owns token = false := by
  intro token hmem
  rcases List.mem_append.mp hmem with hmem | hmem
  · exact h.interfaceImpls.owns_eq_false (by decide) token hmem
  · rcases List.mem_append.mp hmem with hmem | hmem
    · exact h.owns_methodGroups (by decide) (by decide) token hmem
    · exact h.fields.owns_eq_false (by decide) token hmem

theorem owns_propertiesEvents (h : type.Tabled) :
    ∀ token ∈ type.propertiesEvents, Table.typeDef.owns token = false := by
  intro token hmem
  rcases List.mem_append.mp hmem with hmem | hmem
  · exact h.properties.owns_eq_false (by decide) token hmem
  · exact h.events.owns_eq_false (by decide) token hmem

theorem methods_eq (h : type.Tabled) (h' : type'.Tabled) (heq : type.methodGroups = type'.methodGroups) :
    type.methods = type'.methods := by
  have hboth : ∀ method ∈ type.methods ++ type'.methods,
      Table.methodDef.owns method.token = true ∧ ∀ token ∈ method.params, Table.methodDef.owns token = false := by
    intro method hmem
    rcases List.mem_append.mp hmem with hmem | hmem
    · exact ⟨h.methods.owns _ (List.mem_map_of_mem hmem), (h.params method hmem).owns_eq_false (by decide)⟩
    · exact ⟨h'.methods.owns _ (List.mem_map_of_mem hmem), (h'.params method hmem).owns_eq_false (by decide)⟩
  have hmap := map_eq_of_flatMap_eq heq (fun method hmem => (hboth method hmem).1)
    fun method hmem => (hboth method hmem).2
  refine List.map_injective_iff.mpr ?_ hmap
  rintro ⟨token, params⟩ ⟨token', params'⟩ hmethod
  obtain ⟨rfl, rfl⟩ := Prod.mk.inj hmethod
  rfl

/-- A type is determined by its token and what two walks list below it. -/
theorem eq_of_lists (h : type.Tabled) (h' : type'.Tabled) (htoken : type.token = type'.token)
    (hhierarchy : type.hierarchy = type'.hierarchy) (hlists : type.propertiesEvents = type'.propertiesEvents) :
    type = type' := by
  have hback : ∀ {type : TypeDef}, type.Tabled →
      ∀ token ∈ type.methodGroups ++ type.fields, Table.interfaceImpl.owns token = false := by
    intro type h token hmem
    rcases List.mem_append.mp hmem with hmem | hmem
    · exact h.owns_methodGroups (by decide) (by decide) token hmem
    · exact h.fields.owns_eq_false (by decide) token hmem
  obtain ⟨himpls, hrest⟩ := append_inj_of_test hhierarchy h.interfaceImpls.owns h'.interfaceImpls.owns (hback h)
    (hback h')
  have hnotField : ∀ {type : TypeDef}, type.Tabled →
      ∀ token ∈ type.methodGroups, (!Table.fieldDef.owns token) = true := by
    intro type h token hmem
    rw [h.owns_methodGroups (by decide) (by decide) token hmem]
    rfl
  have hfield : ∀ {type : TypeDef}, type.Tabled → ∀ token ∈ type.fields, (!Table.fieldDef.owns token) = false := by
    intro type h token hmem
    rw [h.fields.owns token hmem]
    rfl
  obtain ⟨hgroups, hfields⟩ := append_inj_of_test hrest (hnotField h) (hnotField h') (hfield h) (hfield h')
  obtain ⟨hproperties, hevents⟩ := append_inj_of_test hlists h.properties.owns h'.properties.owns
    (h.events.owns_eq_false (by decide)) (h'.events.owns_eq_false (by decide))
  have hmethods := h.methods_eq h' hgroups
  cases type
  cases type'
  rw [TypeDef.mk.injEq]
  exact ⟨htoken, himpls, hmethods, hfields, hproperties, hevents⟩

end TypeDef.Tabled

theorem Model.WellFormed.types_eq {model model' : Model} (h : model.WellFormed) (h' : model'.WellFormed)
    (hhierarchy : model.composed Walk.typeHierarchy = model'.composed Walk.typeHierarchy)
    (hlists : model.composed Walk.propertiesEvents = model'.composed Walk.propertiesEvents) :
    model.types = model'.types := by
  have hboth : ∀ type ∈ model.types ++ model'.types, type.Tabled := fun type hmem =>
    (List.mem_append.mp hmem).elim (h.tabled type) (h'.tabled type)
  have hkey : ∀ type ∈ model.types ++ model'.types, Table.typeDef.owns type.token = true := fun type hmem =>
    (hboth type hmem).token.owns _ (List.mem_singleton_self _)
  rw [h.composed_typeHierarchy, h'.composed_typeHierarchy] at hhierarchy
  rw [h.composed_propertiesEvents, h'.composed_propertiesEvents] at hlists
  have hhierarchies := map_eq_of_flatMap_eq hhierarchy hkey fun type hmem => (hboth type hmem).owns_hierarchy
  have hpropertiesEvents := map_eq_of_flatMap_eq hlists hkey fun type hmem =>
    (hboth type hmem).owns_propertiesEvents
  refine eq_of_map_eq hhierarchies hpropertiesEvents fun type hmem type' hmem' heq heq' => ?_
  exact (h.tabled type hmem).eq_of_lists (h'.tabled type' hmem') (Prod.mk.inj heq).1 (Prod.mk.inj heq).2
    (Prod.mk.inj heq').2

end MetaParity
