import MetaParity.Diff.Stretch

/-!
# Shortest edit scripts

The divide-and-conquer search for a shortest edit script. Lines that two ranges share at their ends are set aside;
between them, searches from both ends meet at a point through which some shortest script passes, and the ranges are
split there.
-/

namespace MetaParity.Diff

structure Range where
  start : Nat
  stop : Nat

def Range.length (range : Range) : Nat :=
  range.stop - range.start

/-- The furthest position that a search has reached on each diagonal, negative diagonals included. -/
structure Frontier where
  offset : Nat
  reached : Array Nat

namespace Frontier

def empty (bound : Nat) : Frontier :=
  ⟨bound, Array.replicate (2 * bound + 1) 0⟩

def get (frontier : Frontier) (diagonal : Int) : Nat :=
  frontier.reached.getD (diagonal + frontier.offset).toNat 0

def set (frontier : Frontier) (diagonal : Int) (position : Nat) : Frontier :=
  { frontier with reached := frontier.reached.setIfInBounds (diagonal + frontier.offset).toNat position }

/-- Where the search starts on a diagonal in its `depth`-th round: one step off the better of the two neighbours. -/
def next (frontier : Frontier) (depth : Nat) (diagonal : Int) : Nat :=
  if diagonal = -depth ∨ (diagonal ≠ depth ∧ frontier.get (diagonal - 1) < frontier.get (diagonal + 1)) then
    frontier.get (diagonal + 1)
  else frontier.get (diagonal - 1) + 1

end Frontier

section Search

variable {α : Type} [BEq α] [Inhabited α]

def agreeing (old new : Array α) : Nat → Nat → Nat → Nat
  | 0, _, _ => 0
  | limit + 1, i, j => if old[i]! == new[j]! then agreeing old new limit (i + 1) (j + 1) + 1 else 0

def agreeingBefore (old new : Array α) : Nat → Nat → Nat → Nat
  | 0, _, _ => 0
  | limit + 1, i, j =>
    if old[i - 1]! == new[j - 1]! then agreeingBefore old new limit (i - 1) (j - 1) + 1 else 0

/-- A point, relative to the starts of the two ranges, where the searches from both ends meet. -/
def meeting (old new : Array α) (a b : Range) : Option (Nat × Nat) := Id.run do
  let n := a.length
  let m := b.length
  let delta : Int := n - m
  let odd := delta % 2 != 0
  let bound := (n + m + 1) / 2 + 1
  let mut forward := Frontier.empty bound
  let mut backward := Frontier.empty bound
  for depth in [0:bound] do
    for step in [0:depth + 1] do
      let diagonal : Int := depth - 2 * step
      let x := forward.next depth diagonal
      let y := (x - diagonal).toNat
      let far := if x < n && y < m then
        x + agreeing old new (min (n - x) (m - y)) (a.start + x) (b.start + y) else x
      forward := forward.set diagonal far
      if odd && (diagonal - delta).natAbs < depth && far + backward.get (delta - diagonal) ≥ n then
        return some (x, y)
    for step in [0:depth + 1] do
      let diagonal : Int := depth - 2 * step
      let x := backward.next depth diagonal
      let y := (x - diagonal).toNat
      let gained := if x < n && y < m then
        agreeingBefore old new (min (n - x) (m - y)) (a.start + n - x) (b.start + m - y) else 0
      backward := backward.set diagonal (x + gained)
      if !odd && (diagonal - delta).natAbs ≤ depth
          && x + gained + forward.get (delta - diagonal) ≥ n then
        return some (n - (x + gained), m - (y + gained))
  return none

def linesOf (text : Array α) (range : Range) : List α :=
  (text.extract range.start range.stop).toList

/-- A script between two ranges. What remains of one range is anchored at the start of what remains of the other. Each
split leaves shorter ranges, so fuel of one more than their lengths together is never used up. -/
def scriptBetween (old new : Array α) : Nat → Range → Range → Script α
  | 0, a, b => [.removed (linesOf old a) b.start, .added (linesOf new b) a.start]
  | fuel + 1, a, b =>
    let lead := agreeing old new (min a.length b.length) a.start b.start
    let a' : Range := { a with start := a.start + lead }
    let b' : Range := { b with start := b.start + lead }
    let trail := agreeingBefore old new (min a'.length b'.length) a'.stop b'.stop
    let a'' : Range := { a' with stop := a'.stop - trail }
    let b'' : Range := { b' with stop := b'.stop - trail }
    let inner : Script α :=
      if a''.length = 0 then [.added (linesOf new b'') a''.start]
      else if b''.length = 0 then [.removed (linesOf old a'') b''.start]
      else match meeting old new a'' b'' with
        | some (x, y) =>
          scriptBetween old new fuel ⟨a''.start, a''.start + x⟩ ⟨b''.start, b''.start + y⟩
            ++ scriptBetween old new fuel ⟨a''.start + x, a''.stop⟩ ⟨b''.start + y, b''.stop⟩
        | none => [.removed (linesOf old a'') b''.start, .added (linesOf new b'') a''.start]
    [.same (linesOf old ⟨a.start, a'.start⟩)] ++ inner ++ [.same (linesOf old ⟨a''.stop, a.stop⟩)]

def shortestScript (old new : List α) : Script α :=
  scriptBetween old.toArray new.toArray (old.length + new.length + 1) ⟨0, old.length⟩ ⟨0, new.length⟩

end Search

end MetaParity.Diff
