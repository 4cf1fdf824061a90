import MetaParity.Cursor

/-!
# Driving an import

Computations that drive an import and may stop, and the one way in which they use a cursor: it is closed when they are
done with it, however they ended.
-/

namespace MetaParity

/-- A computation that drives imports over a state and may stop. -/
abbrev Drive (σ : Type) := ExceptT Stop (StateM σ)

namespace Drive

def ofExcept (step : σ → Except Failure α × σ) : Drive σ α :=
  ExceptT.mk fun state =>
    let (answer, state) := step state
    (answer.mapError .failed, state)

def fail (failure : Failure) : Drive σ α :=
  throw (.failed failure)

end Drive

abbrev CursorDrive (σ : Type) := Drive (Cursor × σ)

namespace CursorDrive

def drain (session : Import σ) (capacity : Nat) : CursorDrive σ (List Token) :=
  ExceptT.mk fun (cursor, state) =>
    let (drained, rest) := cursor.drain session capacity state
    (drained.answer, rest)

def count (session : Import σ) : CursorDrive σ UInt32 :=
  .ofExcept fun (cursor, state) =>
    let (answer, state) := cursor.count session state
    (answer, cursor, state)

def reset (session : Import σ) (offset : UInt32) : CursorDrive σ Unit :=
  .ofExcept fun (cursor, state) =>
    let (answer, state) := cursor.reset session offset state
    (answer, cursor, state)

end CursorDrive

/-- Runs a computation on a new cursor of the query and closes the cursor. -/
def Drive.onCursor (session : Import σ) (query : Query) (body : CursorDrive σ α) : Drive σ α :=
  ExceptT.mk fun state =>
    let (answer, cursor, state) := ExceptT.run body (⟨query, .unopened⟩, state)
    (answer, cursor.close session state)

end MetaParity
