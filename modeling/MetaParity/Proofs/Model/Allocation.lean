import MetaParity.Proofs.Model.Synthetic
import Mathlib.Algebra.Module.NatInt

/-! # Rows handed out in loops

Synthetic models are what nested loops make that take the next row of a table whenever they need a token: every round
of a loop takes up the same number of rows, so the rounds before it tell where it starts. -/

namespace MetaParity.Model

abbrev Rows := Table → Nat

def allocate (table : Table) : StateM Rows Token := fun rows =>
  (rowToken table (rows table), Function.update rows table (rows table + 1))

def repeated {α : Type} (m : StateM Rows α) : Nat → StateM Rows (List α)
  | 0 => pure []
  | n + 1 => do
    let first ← m
    let rest ← repeated m n
    return first :: rest

/-! ## What a computation takes up -/

/-- The value of a computation is made of the next rows, and the tables move on by its cost. -/
def Takes {α : Type} (m : StateM Rows α) (value : Rows → α) (cost : Rows) : Prop :=
  ∀ rows, m.run rows = (value rows, rows + cost)

section

variable {α β : Type} {m : StateM Rows α} {value : Rows → α} {cost : Rows}

theorem takes_pure (a : α) : Takes (pure a) (fun _ => a) 0 :=
  fun _ => rfl

theorem Takes.bind {f : α → StateM Rows β} {value' : α → Rows → β} {cost' : Rows} (hm : Takes m value cost)
    (hf : ∀ a, Takes (f a) (value' a) cost') :
    Takes (m >>= f) (fun rows => value' (value rows) (rows + cost)) (cost + cost') := by
  intro rows
  rw [StateT.run_bind, hm rows, ← add_assoc]
  exact hf (value rows) (rows + cost)

theorem takes_allocate (table : Table) :
    Takes (allocate table) (fun rows => rowToken table (rows table)) (Pi.single table 1) := by
  intro rows
  refine Prod.ext rfl (funext fun other => ?_)
  by_cases heq : other = table
  · subst heq
    simp [allocate, StateT.run]
  · simp [allocate, StateT.run, heq]

/-- A round of a loop starts at the rows that the rounds before it leave. -/
theorem Takes.repeated (hm : Takes m value cost) (n : Nat) :
    Takes (repeated m n) (fun rows => (List.range n).map fun i => value (rows + i • cost)) (n • cost) := by
  induction n with
  | zero =>
      intro rows
      rw [zero_nsmul, add_zero]
      rfl
  | succ n ih =>
      -- The first round moves all others on by its cost, so they start one cost later.
      have hloop := hm.bind fun first => ih.bind fun rest => takes_pure (first :: rest)
      rw [add_zero, ← succ_nsmul'] at hloop
      intro rows
      refine (hloop rows).trans (Prod.ext ?_ rfl)
      dsimp only
      rw [List.range_succ_eq_map, List.map_cons, List.map_map, zero_nsmul, add_zero]
      simp only [Function.comp_def, Nat.succ_eq_add_one, succ_nsmul', add_assoc]

end

/-! ## The loops -/

def allocateMethod (params : Nat) : StateM Rows Method := do
  let token ← allocate .methodDef
  let params ← repeated (allocate .paramDef) params
  return { token, params }

/-- What one round of the outermost loop makes. -/
structure Round where
  type : TypeDef
  typeRef : Token
  userString : Token
  signature : Token

def allocateRound (methods params fields : Nat) : StateM Rows Round := do
  let token ← allocate .typeDef
  let methods ← repeated (allocateMethod params) methods
  let fields ← repeated (allocate .fieldDef) fields
  let typeRef ← allocate .typeRef
  let userString ← allocate .userString
  let signature ← allocate .signature
  return { type := { token, methods, fields }, typeRef, userString, signature }

def Round.methodBlobs (params : Nat) (round : Round) : List (Token × Bytes) :=
  round.type.methods.map (·.token, methodBlob params)

def Round.fieldBlobs (round : Round) : List (Token × Bytes) :=
  round.type.fields.map (·, [0x06, 0x08])

def Round.signatureBlobs (round : Round) : List (Token × Bytes) :=
  [(round.signature, [0x07, 0x01, 0x08])]

def Round.blobs (params : Nat) (round : Round) : List (Token × Bytes) :=
  round.methodBlobs params ++ round.fieldBlobs ++ round.signatureBlobs

def ofRounds (params : Nat) (rounds : List Round) : Model where
  types := rounds.map (·.type)
  typeRefs := rounds.map (·.typeRef)
  userStrings := rounds.map (·.userString)
  signatures := rounds.map (·.signature)
  blobs := .ofPairs (rounds.flatMap (·.blobs params))

/-- The model that the loops make. -/
def allocated (types methods params fields : Nat) : Model :=
  .ofRounds params ((repeated (allocateRound methods params fields) types).run firstRow).1

/-! ## The loops make the synthetic model -/

/-- The method whose rows come next. -/
def methodAt (params : Nat) (rows : Rows) : Method where
  token := rowToken .methodDef (rows .methodDef)
  params := (List.range params).map fun k => rowToken .paramDef (rows .paramDef + k)

def rowsPerMethod (params : Nat) : Rows :=
  Pi.single .methodDef 1 + params • Pi.single .paramDef 1

theorem takes_allocateMethod (params : Nat) :
    Takes (allocateMethod params) (methodAt params) (rowsPerMethod params) := by
  have hmethod := (takes_allocate .methodDef).bind fun token =>
    ((takes_allocate .paramDef).repeated params).bind fun params => takes_pure { token, params : Method }
  intro rows
  refine (hmethod rows).trans ?_
  simp [methodAt, rowsPerMethod]

def roundAt (methods params fields : Nat) (rows : Rows) : Round where
  type :=
    { token := rowToken .typeDef (rows .typeDef)
      methods := (List.range methods).map fun k => methodAt params (rows + k • rowsPerMethod params)
      fields := (List.range fields).map fun k => rowToken .fieldDef (rows .fieldDef + k) }
  typeRef := rowToken .typeRef (rows .typeRef)
  userString := rowToken .userString (rows .userString)
  signature := rowToken .signature (rows .signature)

theorem takes_allocateRound (methods params fields : Nat) :
    Takes (allocateRound methods params fields) (roundAt methods params fields) (rowsPerType methods params fields) := by
  have hround := (takes_allocate .typeDef).bind fun token =>
    ((takes_allocateMethod params).repeated methods).bind fun methods =>
    ((takes_allocate .fieldDef).repeated fields).bind fun fields =>
    (takes_allocate .typeRef).bind fun typeRef =>
    (takes_allocate .userString).bind fun userString =>
    (takes_allocate .signature).bind fun signature =>
      takes_pure { type := { token, methods, fields }, typeRef, userString, signature : Round }
  intro rows
  refine (hround rows).trans (Prod.ext ?_ (funext fun table => ?_))
  · simp [roundAt, methodAt, rowsPerMethod]
  · cases table <;> simp [rowsPerType, rowsPerMethod]

def syntheticRound (methods params fields index : Nat) : Round where
  type := syntheticType methods params fields index
  typeRef := rowToken .typeRef (index + 1)
  userString := rowToken .userString (index + 1)
  signature := rowToken .signature (index + 1)

theorem roundAt_add_nsmul (methods params fields index : Nat) :
    roundAt methods params fields (firstRow + index • rowsPerType methods params fields) =
      syntheticRound methods params fields index := by
  simp [roundAt, methodAt, rowsPerMethod, firstRow, rowsPerType, syntheticRound, syntheticType, syntheticMethod,
    add_mul, mul_assoc, add_assoc, add_comm, add_left_comm]

theorem run_rounds (types methods params fields : Nat) :
    ((repeated (allocateRound methods params fields) types).run firstRow).1 =
      (List.range types).map (syntheticRound methods params fields) := by
  have hrounds := (takes_allocateRound methods params fields).repeated types firstRow
  simp only [roundAt_add_nsmul] at hrounds
  exact congrArg Prod.fst hrounds

theorem blobsInOrder_ofRounds (params : Nat) (rounds : List Round) :
    (ofRounds params rounds).blobsInOrder params = rounds.flatMap Round.fieldBlobs ++
      rounds.flatMap (Round.methodBlobs params) ++ rounds.flatMap Round.signatureBlobs := by
  have hsignatures : rounds.flatMap Round.signatureBlobs = (rounds.map (·.signature)).map (·, [0x07, 0x01, 0x08]) := by
    rw [List.map_map, List.map_eq_flatMap]
    rfl
  rw [hsignatures]
  simp only [blobsInOrder, tokensOf, ofRounds, List.map_flatMap, List.flatMap_map, List.map_map]
  rfl

/-- Round after round, blobs come up in another order than that of their tokens. -/
theorem perm_blobsInOrder (params : Nat) (rounds : List Round) :
    ((ofRounds params rounds).blobsInOrder params).Perm (rounds.flatMap (Round.blobs params)) := by
  have hmembers := List.perm_append_comm.trans
    (List.flatMap_append_perm rounds (Round.methodBlobs params) Round.fieldBlobs)
  rw [blobsInOrder_ofRounds]
  exact (hmembers.append_right _).trans (List.flatMap_append_perm _ _ Round.signatureBlobs)

theorem blobsInOrder_synthetic (types methods params fields : Nat) :
    (synthetic types methods params fields).blobsInOrder params =
      (ofRounds params ((List.range types).map (syntheticRound methods params fields))).blobsInOrder params := by
  simp [blobsInOrder, tokensOf, synthetic, ofRounds, syntheticRound, Function.comp_def]

/-- Loops that hand out rows make the synthetic model, provided that its rows fit into 24 bits. -/
theorem allocated_eq_synthetic {types methods params fields : Nat} (h : RowsFit types methods params fields) :
    allocated types methods params fields = synthetic types methods params fields := by
  have hkeys := Token.nodup_of_pairwise_lt (pairwise_keys_synthetic h)
  have hblobs : (synthetic types methods params fields).blobs =
      .ofPairs ((synthetic types methods params fields).blobsInOrder params) := blobs_synthetic_eq_ofPairs
  rw [blobsInOrder_synthetic] at hkeys hblobs
  rw [Blobs.ofPairs_of_perm (perm_blobsInOrder params _) hkeys] at hblobs
  rw [allocated, run_rounds, ofRounds, ← hblobs]
  simp [synthetic, syntheticRound, Function.comp_def]

end MetaParity.Model
