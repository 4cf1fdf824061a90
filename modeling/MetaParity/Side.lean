/-!
# Sides

A run drives two implementations: the baseline, which is trusted, and the current one, which is under test.
-/

namespace MetaParity

/-- One of the two implementations of a run. -/
inductive Side where
  | baseline
  | current
deriving DecidableEq, Inhabited

namespace Side

/-- Both sides, in the order in which a run drives them. -/
def all : List Side := [baseline, current]

def name : Side → String
  | baseline => "baseline"
  | current => "current"

def other : Side → Side
  | baseline => current
  | current => baseline

def pick {α : Type u} : Side → α × α → α
  | baseline, pair => pair.1
  | current, pair => pair.2

end Side

end MetaParity
