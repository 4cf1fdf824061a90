import MetaParity.Diff.Stretch

/-!
# Sliding additions

A script is often not the only one of its cost: added lines may slide over equal lines beside them. Every addition is
slid up as far as it goes, which may join it to an earlier one, and then down as far as it goes.

The anchor of an addition moves with it over equal lines, and stays where it is when the addition passes removed lines.
Removed lines keep their anchors, and additions that join keep the anchor of the upper one.
-/

namespace MetaParity.Diff

variable {α : Type u} [BEq α]

def dropEmpty (script : Script α) : Script α :=
  script.filter fun stretch => !(stretch.old.isEmpty && stretch.new.isEmpty)

/-- How many lines the stretches hold, each stretch counted as one more. -/
def weight (script : Script α) : Nat :=
  script.foldr (fun stretch rest => stretch.old.length + stretch.new.length + 1 + rest) 0

/-- An addition within a script: the stretches above it, the nearest first, its lines and anchor, and the stretches
below it. -/
structure Addition (α : Type u) where
  above : Script α
  lines : List α
  anchor : Nat
  below : Script α

namespace Addition

/-- Slides an addition up. One that it meets takes it in, and keeps its own anchor. -/
def slideUp (above : Script α) (lines : List α) (anchor : Nat) (below : Script α) : Addition α :=
  match above with
  | [] => ⟨[], lines, anchor, below⟩
  | .removed gone place :: rest => slideUp rest lines anchor (.removed gone place :: below)
  | .added more place :: rest => slideUp rest (more ++ lines) place below
  | .same [] :: rest => slideUp rest lines anchor below
  | .same (x :: kept) :: rest =>
    let last := (x :: kept).getLast (List.cons_ne_nil x kept)
    match lines.getLast? with
    | some y =>
      if last == y then
        slideUp (.same (x :: kept).dropLast :: rest) (last :: lines.dropLast) (anchor - 1) (.same [last] :: below)
      else ⟨.same (x :: kept) :: rest, lines, anchor, below⟩
    | none => ⟨.same (x :: kept) :: rest, lines, anchor, below⟩
termination_by weight above
decreasing_by
  all_goals simp only [weight, Stretch.old, Stretch.new, List.foldr_cons, List.length_dropLast, List.length_cons,
    List.length_nil]
  all_goals omega

/-- Slides an addition down. It takes in those that it meets. -/
def slideDown (above : Script α) (lines : List α) (anchor : Nat) (below : Script α) : Addition α :=
  match below with
  | [] => ⟨above, lines, anchor, []⟩
  | .removed gone place :: rest => slideDown (.removed gone place :: above) lines anchor rest
  | .added more _ :: rest => slideDown above (lines ++ more) anchor rest
  | .same [] :: rest => slideDown above lines anchor rest
  | .same (x :: kept) :: rest =>
    match lines with
    | y :: others =>
      if x == y then slideDown (.same [x] :: above) (others ++ [x]) (anchor + 1) (.same kept :: rest)
      else ⟨above, lines, anchor, .same (x :: kept) :: rest⟩
    | [] => ⟨above, [], anchor, .same (x :: kept) :: rest⟩
termination_by weight below
decreasing_by
  all_goals simp only [weight, Stretch.old, Stretch.new, List.foldr_cons, List.length_cons, List.length_nil]
  all_goals omega

def settle (addition : Addition α) : Addition α :=
  let raised := slideUp addition.above addition.lines addition.anchor addition.below
  slideDown raised.above raised.lines raised.anchor raised.below

end Addition

/-- Slides every addition of `below`, from the first to the last, in at most `fuel` steps; `above` holds the stretches
that are done, the nearest first. -/
def slideAll : Nat → Script α → Script α → Script α
  | 0, above, below => above.reverse ++ below
  | _ + 1, above, [] => above.reverse
  | fuel + 1, above, .added lines anchor :: below =>
    let settled := Addition.settle ⟨above, lines, anchor, below⟩
    slideAll fuel (.added settled.lines settled.anchor :: settled.above) settled.below
  | fuel + 1, above, stretch :: below => slideAll fuel (stretch :: above) below

def slide (script : Script α) : Script α :=
  let pieces := dropEmpty script
  slideAll ((weight pieces + 1) * (weight pieces + 1)) [] pieces

end MetaParity.Diff
