import MetaParity.Diff.Shortest
import MetaParity.Diff.Slide

/-!
# Unified diffs

The text form of an edit script: hunks of changed lines with unchanged ones around them, each under a header that says
where it lies in both texts.

A header reads from the place where the first segment of its hunk begins to the place where the last one ends. In a text
that such a segment covers lines of, or that it leaves unchanged, this is counted in lines; in a text that it covers
nothing of, it is the anchor of the segment.
-/

namespace MetaParity.Diff

/-- A stretch of a script in which removed and added lines that meet stand together. -/
inductive Segment (α : Type u) where
  | same (lines : List α)
  | removed (lines : List α) (anchor : Nat)
  | added (lines : List α) (anchor : Nat)
  | replaced (lost gained : List α)

namespace Segment

def old : Segment α → List α
  | same lines | removed lines _ => lines
  | added .. => []
  | replaced lost _ => lost

def new : Segment α → List α
  | same lines | added lines _ => lines
  | removed .. => []
  | replaced _ gained => gained

end Segment

/-- The segments of a script: no two of one sort meet, and none is empty. Stretches that join keep the anchor of the
first. -/
def segments : Script α → List (Segment α)
  | [] => []
  | stretch :: rest =>
    match stretch, segments rest with
    | .same [], tail | .removed [] _, tail | .added [] _, tail => tail
    | .same lines, .same more :: tail => .same (lines ++ more) :: tail
    | .same lines, tail => .same lines :: tail
    | .removed lines anchor, .removed more _ :: tail => .removed (lines ++ more) anchor :: tail
    | .removed lines _, .added gained _ :: tail => .replaced lines gained :: tail
    | .removed lines _, .replaced lost gained :: tail => .replaced (lines ++ lost) gained :: tail
    | .removed lines anchor, tail => .removed lines anchor :: tail
    | .added lines anchor, .added more _ :: tail => .added (lines ++ more) anchor :: tail
    | .added lines _, .removed lost _ :: tail => .replaced lost lines :: tail
    | .added lines _, .replaced lost gained :: tail => .replaced lost (lines ++ gained) :: tail
    | .added lines anchor, tail => .added lines anchor :: tail

/-- A segment with the number of lines before it in both texts. -/
structure Piece (α : Type u) where
  segment : Segment α
  oldBefore : Nat
  newBefore : Nat

namespace Piece

def oldStart (piece : Piece α) : Nat :=
  match piece.segment with
  | .added _ anchor => anchor
  | _ => piece.oldBefore

def newStart (piece : Piece α) : Nat :=
  match piece.segment with
  | .removed _ anchor => anchor
  | _ => piece.newBefore

def oldStop (piece : Piece α) : Nat :=
  piece.oldStart + piece.segment.old.length

def newStop (piece : Piece α) : Nat :=
  piece.newStart + piece.segment.new.length

end Piece

/-- The segments with their places, where `old` and `new` lines of the two texts lie before them. -/
def piecesFrom (old new : Nat) : List (Segment α) → List (Piece α)
  | [] => []
  | segment :: rest =>
    ⟨segment, old, new⟩ :: piecesFrom (old + segment.old.length) (new + segment.new.length) rest

abbrev Hunk (α : Type u) := List (Piece α)

def hunkContext : Nat := 3

/-- Unchanged lines as a hunk that they end shows them: the first of them. -/
def trailing (lines : List α) (old new : Nat) : Piece α :=
  ⟨.same (lines.take hunkContext), old, new⟩

def leading (lines : List α) (old new : Nat) : Piece α :=
  let hidden := lines.length - hunkContext
  ⟨.same (lines.drop hidden), old + hidden, new + hidden⟩

/-- Splits pieces into hunks. `shown` holds the pieces of the open hunk, the last first. -/
def hunksFrom (shown : List (Piece α)) : List (Piece α) → List (Hunk α)
  | [] => if shown.isEmpty then [] else [shown.reverse]
  | ⟨.same lines, old, new⟩ :: rest =>
    if shown.isEmpty then
      if rest.isEmpty then [] else hunksFrom [leading lines old new] rest
    else if rest.isEmpty then [(trailing lines old new :: shown).reverse]
    else if lines.length > 2 * hunkContext then
      (trailing lines old new :: shown).reverse :: hunksFrom [leading lines old new] rest
    else hunksFrom (⟨.same lines, old, new⟩ :: shown) rest
  | piece :: rest => hunksFrom (piece :: shown) rest

def hunks (script : Script α) : List (Hunk α) :=
  hunksFrom [] (piecesFrom 0 0 (segments script))

/-- The lines after the first `start` up to the first `stop`; an empty range lies at the line before it. -/
def rangeText (start stop : Nat) : String :=
  let length := stop - start
  if length = 1 then Nat.repr (start + 1)
  else Nat.repr (if length = 0 then start else start + 1) ++ "," ++ Nat.repr length

def headerText (first last : Piece α) : String :=
  "@@ -" ++ rangeText first.oldStart last.oldStop ++ " +" ++ rangeText first.newStart last.newStop ++ " @@\n"

def Segment.text : Segment String → String
  | .same lines => String.join (lines.map (" " ++ ·))
  | .removed lines _ => String.join (lines.map ("-" ++ ·))
  | .added lines _ => String.join (lines.map ("+" ++ ·))
  | .replaced lost gained => String.join (lost.map ("-" ++ ·)) ++ String.join (gained.map ("+" ++ ·))

def Hunk.text (hunk : Hunk String) : String :=
  match hunk with
  | [] => ""
  | first :: rest =>
    headerText first ((first :: rest).getLast (List.cons_ne_nil first rest))
      ++ String.join (hunk.map (·.segment.text))

/-- Cuts a text after each line break: a line feed, a carriage return, or the two together. `line` holds the characters
of the open line, the last first. -/
def linesFrom (line : List Char) : List Char → List (List Char)
  | [] => if line.isEmpty then [] else [line.reverse]
  | '\r' :: '\n' :: rest => ('\n' :: '\r' :: line).reverse :: linesFrom [] rest
  | c :: rest =>
    if c = '\n' ∨ c = '\r' then (c :: line).reverse :: linesFrom [] rest else linesFrom (c :: line) rest

def lines (text : String) : List String :=
  (linesFrom [] text.toList).map .ofList

/-- A way to find an edit script between two lists of lines. -/
abbrev Differ := List String → List String → Script String

/-- The differ in use: a shortest script with its additions slid down. -/
def standardDiffer : Differ := fun old new => slide (shortestScript old new)

/-- The hunks that lead from the first text to the second, under the names of the two sides. -/
def unified (differ : Differ) (baseline current : String) : String :=
  "--- baseline\n+++ current\n" ++ String.join ((hunks (differ (lines baseline) (lines current))).map Hunk.text)

end MetaParity.Diff
