import MetaParity.Query

/-!
# Models

What one metadata scope holds: types with everything below them, the flat lists, and the blobs. `Model.items` says what
an enumeration over a model yields.
-/

namespace MetaParity

structure Method where
  token : Token
  params : List Token := []
deriving DecidableEq, Inhabited

structure TypeDef where
  token : Token
  interfaceImpls : List Token := []
  methods : List Method := []
  fields : List Token := []
  properties : List Token := []
  events : List Token := []
deriving DecidableEq, Inhabited

def TypeDef.members (type : TypeDef) : List Token :=
  type.methods.map (·.token) ++ type.fields

/-- How many tokens a type has beneath it, itself included. -/
def TypeDef.size (type : TypeDef) : Nat :=
  type.methods.foldr (fun method rest => 1 + method.params.length + rest) 1
    + type.interfaceImpls.length + type.fields.length + type.properties.length + type.events.length

abbrev Bytes := List UInt8

/-- Blobs by the token that owns them, in ascending order of the tokens. -/
abbrev Blobs := List (Token × Bytes)

namespace Blobs

/-- Gives a token a blob; a blob that it already had is lost. -/
def insert (token : Token) (bytes : Bytes) : Blobs → Blobs
  | [] => [(token, bytes)]
  | (other, held) :: rest =>
    if token.raw < other.raw then (token, bytes) :: (other, held) :: rest
    else if token.raw = other.raw then (token, bytes) :: rest
    else (other, held) :: insert token bytes rest

/-- The blobs of a list of pairs; of two pairs with one token the later counts. -/
def ofPairs (pairs : List (Token × Bytes)) : Blobs :=
  pairs.foldl (fun blobs pair => insert pair.1 pair.2 blobs) []

def get? (blobs : Blobs) (token : Token) : Option Bytes :=
  (blobs.find? (·.1 = token)).map (·.2)

end Blobs

/-- What one metadata scope holds. -/
structure Model where
  types : List TypeDef := []
  typeRefs : List Token := []
  typeSpecs : List Token := []
  moduleRefs : List Token := []
  userStrings : List Token := []
  signatures : List Token := []
  blobs : Blobs := []
deriving DecidableEq, Inhabited

namespace Model

def type? (model : Model) (token : Token) : Option TypeDef :=
  model.types.find? (·.token = token)

/-- The first method with this token, over all types. -/
def method? (model : Model) (token : Token) : Option Method :=
  (model.types.flatMap (·.methods)).find? (·.token = token)

/-- What a list of the type with this token holds; nothing if there is no such type. -/
def below (model : Model) (token : Token) (list : TypeDef → List Token) : List Token :=
  ((model.type? token).map list).getD []

def items (model : Model) : Query → List Token
  | .typeDefs => model.types.map (·.token)
  | .typeRefs => model.typeRefs
  | .typeSpecs => model.typeSpecs
  | .moduleRefs => model.moduleRefs
  | .signatures => model.signatures
  | .userStrings => model.userStrings
  | .interfaceImpls type => model.below type (·.interfaceImpls)
  | .methods type => model.below type (·.methods.map (·.token))
  | .fields type => model.below type (·.fields)
  | .params method => ((model.method? method).map (·.params)).getD []
  | .members type => model.below type (·.members)
  | .properties type => model.below type (·.properties)
  | .events type => model.below type (·.events)

/-- How many tokens a model has in all; no enumeration yields more. -/
def size (model : Model) : Nat :=
  model.types.foldr (fun type rest => type.size + rest) 0
    + model.typeRefs.length + model.typeSpecs.length + model.moduleRefs.length + model.signatures.length
    + model.userStrings.length

def blob? (model : Model) (token : Token) : Option Bytes :=
  model.blobs.get? token

end Model

end MetaParity
