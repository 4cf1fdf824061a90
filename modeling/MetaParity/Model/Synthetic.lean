import MetaParity.Model

/-!
# Synthetic models

Regular models for tests: every type has as many methods, parameters and fields as every other, and each table is
filled row after row.
-/

namespace MetaParity.Model

/-- The blob of a method: its parameter count, which a byte has to hold, a result and one byte for each parameter. -/
def methodBlob (params : Nat) : Bytes :=
  let count := min params 255
  [0x20, .ofNat count, 0x01] ++ List.replicate count 0x08

/-- The token of a table's row, which a synthetic model counts in natural numbers. -/
def rowToken (table : Table) (row : Nat) : Token :=
  table.token (.ofNat row)

def syntheticMethod (params index : Nat) : Method where
  token := rowToken .methodDef (index + 1)
  params := (List.range params).map fun k => rowToken .paramDef (index * params + k + 1)

/-- The `index`-th type of a synthetic model. Types start at row 2: row 1 is the type that stands for the module. -/
def syntheticType (methods params fields index : Nat) : TypeDef where
  token := rowToken .typeDef (index + 2)
  methods := (List.range methods).map fun k => syntheticMethod params (index * methods + k)
  fields := (List.range fields).map fun k => rowToken .fieldDef (index * fields + k + 1)

/-- A model of `types` types with `methods` methods of `params` parameters and `fields` fields each. Every type brings
one type reference, one user string and one signature. -/
def synthetic (types methods params fields : Nat) : Model :=
  let defs := (List.range types).map (syntheticType methods params fields)
  let signatures := (List.range types).map fun k => rowToken .signature (k + 1)
  { types := defs
    typeRefs := (List.range types).map fun k => rowToken .typeRef (k + 1)
    userStrings := (List.range types).map fun k => rowToken .userString (k + 1)
    signatures
    blobs := .ofPairs ((defs.flatMap (·.fields)).map (·, [0x06, 0x08])
      ++ (defs.flatMap (·.methods)).map (·.token, methodBlob params)
      ++ signatures.map (·, [0x07, 0x01, 0x08])) }

end MetaParity.Model
