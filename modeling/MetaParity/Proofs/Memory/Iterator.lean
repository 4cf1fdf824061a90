import MetaParity.Cursor
import MetaParity.Memory.Session
import MetaParity.Proofs.Model.Items

/-! # List iterators

A cursor over an in-memory session amounts to a position in the list that its query yields. -/

namespace MetaParity

theorem Buffer.first_write (buffer : Buffer) {tokens : List Token} (h : tokens.length ≤ buffer.capacity) :
    (buffer.write tokens).first tokens.length = tokens := by
  simp [write, first, List.take_of_length_le h]

namespace Memory

theorem toNat_clampCount (n : Int) : (clampCount n).toNat = min n.toNat 0xffffffff := by
  rw [clampCount, UInt32.toNat_ofNat']
  omega

/-! ## Iterators -/

/-- A position in the list that a query yields; there is none before the first page. -/
structure Iterator where
  query : Query
  position : Option Nat := none
deriving DecidableEq

namespace Iterator

variable (model : Model) (faults : FaultPlan)

/-- What lies ahead of an iterator. -/
def rest (iterator : Iterator) : List Token :=
  (model.items iterator.query).drop (iterator.position.getD 0)

def fault? (iterator : Iterator) : Option Status :=
  (faults.paging.filter (·.1 = iterator.query.kind)).map (·.2)

def skew (iterator : Iterator) : Int :=
  ((faults.countSkew.filter (·.1 = iterator.query.kind)).map (·.2)).getD 0

/-- Opens an iterator, if it is not yet, and moves it forward. -/
def advance (count : Nat) (iterator : Iterator) : Iterator :=
  { iterator with position := some (iterator.position.getD 0 + count) }

def page (capacity : Nat) (iterator : Iterator) : Except Failure (List Token) × Iterator :=
  match iterator.fault? faults with
  | some status => (.error (.pagingFailed iterator.query status), iterator.advance 0)
  | none =>
    (.ok ((iterator.rest model).take capacity), iterator.advance ((iterator.rest model).take capacity).length)

def drain (iterator : Iterator) : Drained × Iterator :=
  match iterator.fault? faults with
  | some status => (⟨[], some (.failed (.pagingFailed iterator.query status))⟩, iterator.advance 0)
  | none => (⟨iterator.rest model, none⟩, iterator.advance (iterator.rest model).length)

def count (iterator : Iterator) : UInt32 :=
  match iterator.position with
  | none => 0
  | some _ => clampCount ((model.items iterator.query).length + iterator.skew faults)

/-- Moves an open iterator, also beyond the end of its list. -/
def reset (offset : UInt32) (iterator : Iterator) : Except Failure Unit × Iterator :=
  match iterator.position, faults.reset with
  | none, _ => (.ok (), iterator)
  | some _, some status => (.error (.resetFailed iterator.query offset.toNat status), iterator)
  | some _, none => (.ok (), { iterator with position := some offset.toNat })

def close (iterator : Iterator) : Iterator :=
  { iterator with position := none }

@[simp] theorem query_advance (count : Nat) (iterator : Iterator) : (iterator.advance count).query = iterator.query :=
  rfl

@[simp] theorem position_advance (count : Nat) (iterator : Iterator) :
    (iterator.advance count).position = some (iterator.position.getD 0 + count) := rfl

theorem advance_zero {iterator : Iterator} {position : Nat} (h : iterator.position = some position) :
    iterator.advance 0 = iterator := by
  cases iterator
  subst h
  rfl

@[simp] theorem advance_advance (first second : Nat) (iterator : Iterator) :
    (iterator.advance first).advance second = iterator.advance (first + second) := by
  simp [advance, Nat.add_assoc]

@[simp] theorem fault?_advance (count : Nat) (iterator : Iterator) :
    (iterator.advance count).fault? faults = iterator.fault? faults := rfl

theorem rest_advance (count : Nat) (iterator : Iterator) :
    (iterator.advance count).rest model = (iterator.rest model).drop count := by
  simp [rest, List.drop_drop]

@[simp] theorem page_advance_zero (capacity : Nat) (iterator : Iterator) :
    (iterator.advance 0).page model faults capacity = iterator.page model faults capacity := by
  simp [page, rest_advance]

@[simp] theorem drain_advance_zero (iterator : Iterator) :
    (iterator.advance 0).drain model faults = iterator.drain model faults := by
  simp [drain, rest_advance]

end Iterator

end Memory

end MetaParity
