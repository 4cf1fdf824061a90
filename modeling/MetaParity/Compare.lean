import MetaParity.Diff.Unified
import MetaParity.Signature

/-!
# Comparison of listings

Two listings are equal when they have the same length and agree at every position. Otherwise the first position at
which they differ is reported, with the item that either side has there and a unified diff of the positions around it.
-/

namespace MetaParity

/-- An item of a listing: when two items count as equal, and how one is shown. -/
class Listed (α : Type u) where
  same : α → α → Bool
  text : α → String

instance : Listed Token := ⟨(· == ·), Token.text⟩

instance : Listed String := ⟨(· == ·), id⟩

instance : Listed Int := ⟨(· == ·), fun n => if n < 0 then "-" ++ Nat.repr n.natAbs else Nat.repr n.natAbs⟩

/-- Records count as equal when their lengths are equal: the address is private to an implementation. -/
instance : Listed SignatureRecord := ⟨(·.length == ·.length), SignatureRecord.text⟩

instance : Listed SignatureBlob := ⟨(· == ·), SignatureBlob.text⟩

structure Divergence where
  scenario : String
  index : Nat
  baseline : Option String
  current : Option String
  baselineLength : Nat
  currentLength : Nat
  unifiedDiff : String
deriving DecidableEq, Inhabited

namespace Divergence

def isLengthMismatch (divergence : Divergence) : Bool :=
  divergence.baselineLength != divergence.currentLength

def text (divergence : Divergence) : String :=
  let shown (item : Option String) := item.getD "<end>"
  divergence.scenario ++ ": first difference at index " ++ Nat.repr divergence.index ++ ": baseline "
    ++ shown divergence.baseline ++ ", current " ++ shown divergence.current
    ++ if divergence.isLengthMismatch then
        " (baseline produced " ++ Nat.repr divergence.baselineLength ++ ", current produced "
          ++ Nat.repr divergence.currentLength ++ ")"
      else ""

end Divergence

namespace Compare

variable {α : Type u} [Listed α]

/-- The first position at which exactly one listing has ended or the items differ. -/
def firstDifference : List α → List α → Option Nat
  | [], [] => none
  | [], _ :: _ | _ :: _, [] => some 0
  | b :: baseline, c :: current =>
    if Listed.same b c then (firstDifference baseline current).map (· + 1) else some 0

/-- The largest position that can be counted to. -/
def lastPosition : Nat := 0xffffffffffffffff

/-- The sum, or the largest position if the sum lies beyond it. -/
def addWithin (a b : Nat) : Nat :=
  min (a + b) lastPosition

/-- The items of the positions from `start` up to but without `stop`, one to a line behind its position. -/
def window (start stop : Nat) (items : List α) : String :=
  String.join (((items.zipIdx.drop start).take (stop - start)).map fun item =>
    "[" ++ Nat.repr item.2 ++ "] " ++ Listed.text item.1 ++ "\n")

def standardContext : Nat := 3

/-- Compares two listings with a given differ. The diff shows `context` items on either side of the first difference. -/
def listingsBy (differ : Diff.Differ) (context : Nat) (scenario : String) (baseline current : List α) :
    Option Divergence :=
  (firstDifference baseline current).map fun index =>
    let stop := addWithin (addWithin index context) 1
    { scenario
      index
      baseline := baseline[index]?.map Listed.text
      current := current[index]?.map Listed.text
      baselineLength := baseline.length
      currentLength := current.length
      unifiedDiff := Diff.unified differ (window (index - context) stop baseline)
        (window (index - context) stop current) }

def listings (context : Nat) (scenario : String) (baseline current : List α) : Option Divergence :=
  listingsBy Diff.standardDiffer context scenario baseline current

end Compare

end MetaParity
