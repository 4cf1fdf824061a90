import MetaParity.Lister

/-!
# Reset replays

The members of the first type are drained, moved to one item before the reported end and drained again, then moved to
the start and drained a third time, all through one handle.
-/

namespace MetaParity

/-- What the three drains of a replay produced. -/
structure Replay where
  /-- The type whose members were drained; there is none if there are no types. -/
  scope : Option Token := none
  first : List Token := []
  /-- How many members the import reported after the first drain. -/
  count : UInt32 := 0
  afterTailReset : List Token := []
  afterFullReset : List Token := []
deriving DecidableEq

namespace Replay

def tokens (replay : Replay) : List Token :=
  replay.first ++ replay.afterTailReset ++ replay.afterFullReset

/-- Checks on one side alone that the tail replay is the last item and the full replay is the first drain. -/
def check (replay : Replay) (side : Side) : Except Failure Unit :=
  let last := replay.first.getLast?
  if replay.count = 0 then .ok ()
  else if replay.afterTailReset.length ≠ 1 ∨ replay.afterTailReset.head? ≠ last then
    .error (.replayInconsistent side
      ("reset(" ++ Nat.repr (replay.count - 1).toNat ++ ") yielded ["
        ++ ", ".intercalate (replay.afterTailReset.map (·.tagged))
        ++ "], expected [" ++ (last.map (·.text)).getD "<none>" ++ "]"))
  else if replay.afterFullReset ≠ replay.first then
    .error (.replayInconsistent side
      ("reset(0) replayed " ++ Nat.repr replay.afterFullReset.length ++ " items, first drain had "
        ++ Nat.repr replay.first.length))
  else .ok ()

end Replay

def Lister.replay (lister : Lister σ) : Drive σ Replay := do
  match ← lister.collect .typeDefs with
  | [] => return {}
  | scope :: _ =>
    Drive.onCursor lister.session (.members scope) do
      let drain := CursorDrive.drain lister.session lister.capacity
      let first ← drain
      let count ← CursorDrive.count lister.session
      if count = 0 then return { scope, first, count }
      else
        CursorDrive.reset lister.session (count - 1)
        let afterTailReset ← drain
        CursorDrive.reset lister.session 0
        let afterFullReset ← drain
        return { scope, first, count, afterTailReset, afterFullReset }

end MetaParity
