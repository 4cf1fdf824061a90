import MetaParity.Listing

/-! # What scenarios list of a model

The listings of a model, read off its enumerations without any paging. -/

namespace MetaParity

variable (model : Model)

/-! ## Walks -/

mutual

def Walk.listed : Walk → Token → List Token
  | category query _ nested, parent =>
    (model.items (query parent)).flatMap fun token => token :: allListed nested token

def Walk.allListed : List Walk → Token → List Token
  | [], _ => []
  | walk :: rest, parent => walk.listed parent ++ allListed rest parent

end

namespace Model

/-- A token and what the walks find below it. -/
def tree (walks : List Walk) (token : Token) : List Token :=
  token :: Walk.allListed model walks token

theorem tree_eq (walks : List Walk) (token : Token) :
    model.tree walks token = token :: walks.flatMap fun
      | .category query _ nested => (model.items (query token)).flatMap (model.tree nested) := by
  unfold tree
  congr 1
  induction walks with
  | nil => rw [Walk.allListed, List.flatMap_nil]
  | cons walk walks ih =>
      obtain ⟨query, counted, nested⟩ := walk
      rw [Walk.allListed, Walk.listed, ih, List.flatMap_cons]

def composed (walks : List Walk) : List Token :=
  (model.items .typeDefs).flatMap fun token => token :: Walk.allListed model walks token

/-! ## Replays and signatures -/

/-- The members of the first type, the last of them, and all of them again. -/
def replayed : List Token :=
  match model.items .typeDefs with
  | [] => []
  | scope :: _ =>
    let members := model.items (.members scope)
    members ++ members.drop (members.length - 1) ++ members

def lookup (token : Token) : Except Failure Blob :=
  match model.blob? token with
  | some bytes => .ok { bytes }
  | none => .error (.lookupFailed token .recordNotFound)

def resolved (token : Token) : Except Failure SignatureRecord := do
  let blob ← model.lookup token
  return ⟨blob.address, blob.bytes.length⟩

def copied (token : Token) : Except Failure SignatureBlob := do
  let blob ← model.lookup token
  return ⟨token, blob.bytes⟩

/-! ## Scenarios -/

def listing : Scenario → Except Failure Listing
  | .typeDefs => .ok (.tokens (model.items .typeDefs))
  | .typeRefs => .ok (.tokens (model.items .typeRefs))
  | .typeSpecs => .ok (.tokens (model.items .typeSpecs))
  | .moduleRefs => .ok (.tokens (model.items .moduleRefs))
  | .signatures => .ok (.tokens (model.items .signatures))
  | .userStrings => .ok (.tokens (model.items .userStrings))
  | .typeHierarchy => .ok (.tokens (model.composed Walk.typeHierarchy))
  | .members => .ok (.tokens (model.composed Walk.members))
  | .propertiesEvents => .ok (.tokens (model.composed Walk.propertiesEvents))
  | .resetEnum => .ok (.tokens model.replayed)
  | .sigFromToken => .records <$> (model.items .signatures).mapM model.resolved
  | .signatureBlobs => .blobs <$> (model.items .signatures).mapM model.copied

/-- 32 bits count every enumeration and the bytes of every signature. -/
structure Countable : Prop where
  length_items_lt : ∀ query, (model.items query).length < 0x100000000
  length_blob_lt : ∀ token ∈ model.signatures, ∀ bytes, model.blob? token = some bytes → bytes.length < 0x100000000

end Model

end MetaParity
