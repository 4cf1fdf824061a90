import MetaParity.Model

/-! # Enumerations of a model

What is below a token belongs to a type of the model, so no enumeration yields more tokens than the model has. -/

namespace MetaParity

/-! ## Sums over lists -/

theorem le_foldr_add_of_mem {α : Type} {f : α → Nat} {items : List α} {item : α} (h : item ∈ items) (start : Nat) :
    f item ≤ items.foldr (fun item rest => f item + rest) start := by
  induction items with
  | nil => cases h
  | cons other items ih =>
      rw [List.foldr_cons]
      rcases List.mem_cons.mp h with rfl | hmem
      · exact Nat.le_add_right _ _
      · exact Nat.le_trans (ih hmem) (Nat.le_add_left _ _)

theorem length_add_le_foldr_add {α : Type} {f : α → Nat} (h : ∀ item, 1 ≤ f item) (items : List α) (start : Nat) :
    items.length + start ≤ items.foldr (fun item rest => f item + rest) start := by
  induction items with
  | nil => simp
  | cons item items ih =>
      have hitem := h item
      rw [List.length_cons, List.foldr_cons]
      omega

/-! ## Types -/

namespace TypeDef

/-- Every list of a type has its place in the size of the type, beside the type itself. -/
theorem length_lists_lt_size (type : TypeDef) :
    type.methods.length + type.interfaceImpls.length + type.fields.length + type.properties.length
      + type.events.length < type.size := by
  have hmethods := length_add_le_foldr_add (f := fun method : Method => 1 + method.params.length)
    (fun _ => Nat.le_add_right _ _) type.methods 1
  unfold size
  omega

theorem length_params_le_size (type : TypeDef) {method : Method} (h : method ∈ type.methods) :
    method.params.length ≤ type.size := by
  have hparams := le_foldr_add_of_mem (f := fun method : Method => 1 + method.params.length) h 1
  unfold size
  omega

end TypeDef

/-! ## Models -/

namespace Model

theorem size_le_of_mem (model : Model) {type : TypeDef} (h : type ∈ model.types) : type.size ≤ model.size := by
  have htypes := le_foldr_add_of_mem (f := TypeDef.size) h 0
  unfold size
  omega

theorem length_types_le_size (model : Model) : model.types.length ≤ model.size := by
  have htypes := length_add_le_foldr_add (f := TypeDef.size)
    (fun type => Nat.one_le_of_lt type.length_lists_lt_size) model.types 0
  unfold size
  omega

theorem items_members_of_types {model : Model} {type : TypeDef} {types : List TypeDef} (h : model.types = type :: types) :
    model.items .typeDefs = type.token :: types.map (·.token) ∧ model.items (.members type.token) = type.members := by
  have hfirst : model.type? type.token = some type := by
    rw [type?, h, List.find?_cons_of_pos (by simp)]
  constructor
  · rw [items, h, List.map_cons]
  · rw [items, below, hfirst]
    rfl

theorem length_items_members (model : Model) (token : Token) :
    (model.items (.members token)).length =
      (model.items (.methods token)).length + (model.items (.fields token)).length := by
  simp only [items, below]
  cases model.type? token with
  | none => rfl
  | some type => simp [TypeDef.members]

theorem length_below_le (model : Model) (token : Token) {list : TypeDef → List Token} {bound : Nat}
    (h : ∀ type ∈ model.types, (list type).length ≤ bound) : (model.below token list).length ≤ bound := by
  unfold below
  cases htype : model.type? token with
  | none => simp
  | some type => exact h type (List.mem_of_find?_eq_some htype)

/-- No enumeration yields more tokens than the model has. -/
theorem length_items_le (model : Model) (query : Query) : (model.items query).length ≤ model.size := by
  cases query with
  | typeDefs => simpa [items] using model.length_types_le_size
  | typeRefs | typeSpecs | moduleRefs | signatures | userStrings =>
      simp only [items, size]
      omega
  | interfaceImpls | fields | properties | events =>
      refine model.length_below_le _ fun type hmem => ?_
      have hlists := type.length_lists_lt_size
      have hsize := model.size_le_of_mem hmem
      omega
  | methods | members =>
      refine model.length_below_le _ fun type hmem => ?_
      have hlists := type.length_lists_lt_size
      have hsize := model.size_le_of_mem hmem
      simp only [TypeDef.members, List.length_append, List.length_map]
      omega
  | params token =>
      rw [items]
      cases hmethod : model.method? token with
      | none => simp
      | some method =>
          obtain ⟨type, htype, hmem⟩ := List.mem_flatMap.mp (List.mem_of_find?_eq_some hmethod)
          exact Nat.le_trans (type.length_params_le_size hmem) (model.size_le_of_mem htype)

end Model

end MetaParity
