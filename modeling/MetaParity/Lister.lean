import MetaParity.Drive

/-!
# Flat listings

Draining one enumeration into a list, with or without a check of the count that the import reports, and looking up the
signatures of a session, by length or byte for byte. Lookups go in the order of the enumeration and stop at the first
that does not resolve.
-/

namespace MetaParity

/-! ## Enumerations -/

structure Lister (σ : Type) where
  session : Import σ
  capacity : Nat
  capacity_pos : 0 < capacity

namespace Lister

def standardCapacity : Nat := 16

/-- A lister of a given page size, which is one at least. -/
def of (session : Import σ) (capacity : Nat) : Lister σ :=
  ⟨session, max capacity 1, by omega⟩

def drain (lister : Lister σ) (query : Query) : Drive σ (List Token) :=
  Drive.onCursor lister.session query (CursorDrive.drain lister.session lister.capacity)

/-- Everything that an enumeration yields, provided that the import reports as many items. -/
def collect (lister : Lister σ) (query : Query) : Drive σ (List Token) := do
  let (tokens, reported) ← Drive.onCursor lister.session query do
    let tokens ← CursorDrive.drain lister.session lister.capacity
    let reported ← CursorDrive.count lister.session
    return (tokens, reported)
  if reported.toNat = tokens.length then return tokens
  else .fail (.countMismatch query reported.toNat tokens.length)

end Lister

/-! ## Signatures -/

namespace Lister

def lookup (lister : Lister σ) (token : Token) : Drive σ Blob :=
  .ofExcept fun state =>
    let (answer, state) := lister.session.signature token state
    (answer.mapError (.lookupFailed token), state)

/-- The signature of a token without its bytes; its length has to fit 32 bits. -/
def resolve (lister : Lister σ) (token : Token) : Drive σ SignatureRecord := do
  let blob ← lister.lookup token
  if blob.bytes.length < 0x100000000 then return ⟨blob.address, blob.bytes.length⟩
  else .fail (.lookupFailed token .invalidArgument)

def copy (lister : Lister σ) (token : Token) : Drive σ SignatureBlob := do
  return ⟨token, (← lister.lookup token).bytes⟩

def resolveSignatures (lister : Lister σ) : Drive σ (List SignatureRecord) := do
  (← lister.collect .signatures).mapM lister.resolve

def copySignatures (lister : Lister σ) : Drive σ (List SignatureBlob) := do
  (← lister.collect .signatures).mapM lister.copy

end Lister

end MetaParity
