import MetaParity.Lister
import MetaParity.Replay
import MetaParity.Walk

/-!
# Listings of scenarios

What a scenario lists on one session, and the comparison of two such listings.
-/

namespace MetaParity

inductive Listing where
  | tokens (items : List Token)
  | records (items : List SignatureRecord)
  | blobs (items : List SignatureBlob)
deriving DecidableEq

namespace Listing

def length : Listing → Nat
  | tokens items => items.length
  | records items => items.length
  | blobs items => items.length

def texts : Listing → List String
  | tokens items => items.map (·.text)
  | records items => items.map (·.text)
  | blobs items => items.map (·.text)

/-- Compares two listings; listings of different sorts are compared by what they show. -/
def compareBy (differ : Diff.Differ) (context : Nat) (scenario : Scenario) (baseline current : Listing) :
    Option Divergence :=
  match baseline, current with
  | tokens b, tokens c => Compare.listingsBy differ context scenario.name b c
  | records b, records c => Compare.listingsBy differ context scenario.name b c
  | blobs b, blobs c => Compare.listingsBy differ context scenario.name b c
  | b, c => Compare.listingsBy differ context scenario.name b.texts c.texts

def compare (context : Nat) (scenario : Scenario) (baseline current : Listing) : Option Divergence :=
  compareBy Diff.standardDiffer context scenario baseline current

end Listing

/-- Lists what the scenario asks for. With `strictReset` a replay is also checked on its own. -/
def Scenario.run (scenario : Scenario) (lister : Lister σ) (side : Side) (strictReset : Bool) : Drive σ Listing :=
  match scenario with
  | typeDefs => .tokens <$> lister.collect .typeDefs
  | typeRefs => .tokens <$> lister.collect .typeRefs
  | typeSpecs => .tokens <$> lister.collect .typeSpecs
  | moduleRefs => .tokens <$> lister.collect .moduleRefs
  | signatures => .tokens <$> lister.collect .signatures
  | userStrings => .tokens <$> lister.collect .userStrings
  | typeHierarchy => .tokens <$> lister.compose .typeDefs Walk.typeHierarchy
  | members => .tokens <$> lister.compose .typeDefs Walk.members
  | propertiesEvents => .tokens <$> lister.compose .typeDefs Walk.propertiesEvents
  | resetEnum => do
    let replay ← lister.replay
    if strictReset then
      Drive.ofExcept fun state => (replay.check side, state)
    return .tokens replay.tokens
  | sigFromToken => .records <$> lister.resolveSignatures
  | signatureBlobs => .blobs <$> lister.copySignatures

end MetaParity
