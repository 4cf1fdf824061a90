/-!
# Edit scripts

An edit script turns one list of lines into another: a list of stretches, each of lines that both have, that the first
alone has, or that the second alone has.

A stretch of one list alone also holds its anchor: a position in the other list, where the stretch was found to belong.
In a script as it is found, an anchor is the position at which the other list stands there, or the start of the lines
that the stretch stands in for. It is a note for whoever shows the script: which lists a script joins, and at what cost,
does not depend on it.
-/

namespace MetaParity.Diff

inductive Stretch (α : Type u) where
  | same (lines : List α)
  | removed (lines : List α) (anchor : Nat)
  | added (lines : List α) (anchor : Nat)

namespace Stretch

def old : Stretch α → List α
  | same lines | removed lines _ => lines
  | added .. => []

def new : Stretch α → List α
  | same lines | added lines _ => lines
  | removed .. => []

def cost : Stretch α → Nat
  | same _ => 0
  | removed lines _ | added lines _ => lines.length

end Stretch

/-- A list of stretches that leads from the lines of one list to the lines of another. -/
abbrev Script (α : Type u) := List (Stretch α)

namespace Script

def old (script : Script α) : List α :=
  script.flatMap Stretch.old

def new (script : Script α) : List α :=
  script.flatMap Stretch.new

def cost (script : Script α) : Nat :=
  script.foldr (fun stretch rest => stretch.cost + rest) 0

end Script

end MetaParity.Diff
