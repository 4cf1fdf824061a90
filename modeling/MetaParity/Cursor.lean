import MetaParity.Failure
import MetaParity.Import
import MetaParity.Token

/-!
# Cursors

A cursor owns the handle of one enumeration. Its first page opens the handle; counting and resetting a cursor that is
not open never reaches the import; closing gives the handle back if there is one. Pages are written into a buffer that
keeps what earlier pages left in it.
-/

namespace MetaParity

/-! ## Buffers -/

/-- A buffer of `capacity` tokens: the cells that were ever written, and nil tokens after them. -/
structure Buffer where
  capacity : Nat
  cells : List Token := []

namespace Buffer

def empty (capacity : Nat) : Buffer := { capacity }

/-- The buffer after tokens were written at its start; tokens beyond its capacity are lost. -/
def write (buffer : Buffer) (tokens : List Token) : Buffer :=
  { buffer with cells := tokens.take buffer.capacity ++ buffer.cells.drop tokens.length }

def first (buffer : Buffer) (count : Nat) : List Token :=
  buffer.cells.take count ++ List.replicate (count - buffer.cells.length) .nil

def tokens (buffer : Buffer) : List Token :=
  buffer.first buffer.capacity

end Buffer

/-! ## Cursors -/

/-- Why driving an import ended without an answer. -/
inductive Stop where
  | failed (failure : Failure)
  /-- A drain took as many pages as the import allows and was given up. -/
  | exhausted
deriving DecidableEq

/-- The owner of one enumeration's handle. -/
structure Cursor where
  query : Query
  handle : Handle := .unopened
deriving DecidableEq

/-- What a drain produced: the tokens of its pages, and why it ended if not at an empty page. -/
structure Drained where
  tokens : List Token
  stop : Option Stop

/-- The tokens of a drain that was not stopped. -/
def Drained.answer (drained : Drained) : Except Stop (List Token) :=
  match drained.stop with
  | none => .ok drained.tokens
  | some stop => .error stop

namespace Cursor

def isOpened (cursor : Cursor) : Bool :=
  cursor.handle.isOpened

/-- Fetches the next page into the buffer. An empty page means that the enumeration is at its end. -/
def page (session : Import σ) (cursor : Cursor) (buffer : Buffer) (state : σ) :
    Except Failure (List Token) × Cursor × Buffer × σ :=
  let (reply, state) := session.page cursor.handle cursor.query buffer.capacity state
  let cursor := { cursor with handle := reply.handle }
  let buffer := buffer.write reply.written
  let result := match reply.outcome with
    | .error status => .error (.pagingFailed cursor.query status)
    | .ok returned =>
      if returned > buffer.capacity then .error (.pageOverrun cursor.query returned buffer.capacity)
      else .ok (buffer.first returned)
  (result, cursor, buffer, state)

/-- Pages up to the first empty page, at most `fuel` times, always into one buffer. -/
def drainFrom (session : Import σ) : Nat → Buffer → Cursor → σ → Drained × Cursor × σ
  | 0, _, cursor, state => (⟨[], some .exhausted⟩, cursor, state)
  | fuel + 1, buffer, cursor, state =>
    match cursor.page session buffer state with
    | (.error failure, cursor, _, state) => (⟨[], some (.failed failure)⟩, cursor, state)
    | (.ok [], cursor, _, state) => (⟨[], none⟩, cursor, state)
    | (.ok (token :: more), cursor, buffer, state) =>
      let (rest, cursor, state) := drainFrom session fuel buffer cursor state
      (⟨token :: more ++ rest.tokens, rest.stop⟩, cursor, state)

/-- Pages up to the first empty page through a buffer of the capacity, which is one at least. -/
def drain (session : Import σ) (capacity : Nat) (cursor : Cursor) (state : σ) : Drained × Cursor × σ :=
  drainFrom session (session.pageLimit state) (.empty (max capacity 1)) cursor state

/-- Appends page after page to a list, up to the first empty page and at most `fuel` times. The list keeps what was
appended before a failure. -/
def drainIntoFrom (session : Import σ) : Nat → Buffer → List Token → Cursor → σ →
    Option Stop × List Token × Cursor × σ
  | 0, _, out, cursor, state => (some .exhausted, out, cursor, state)
  | fuel + 1, buffer, out, cursor, state =>
    match cursor.page session buffer state with
    | (.error failure, cursor, _, state) => (some (.failed failure), out, cursor, state)
    | (.ok [], cursor, _, state) => (none, out, cursor, state)
    | (.ok (token :: more), cursor, buffer, state) =>
      drainIntoFrom session fuel buffer (out ++ token :: more) cursor state

/-- Appends all pages of a drain to a list; the answer is how many tokens were appended. -/
def drainInto (session : Import σ) (capacity : Nat) (out : List Token) (cursor : Cursor) (state : σ) :
    Except Stop Nat × List Token × Cursor × σ :=
  let (stop, filled, cursor, state) :=
    drainIntoFrom session (session.pageLimit state) (.empty (max capacity 1)) out cursor state
  let result := match stop with
    | none => .ok (filled.length - out.length)
    | some stop => .error stop
  (result, filled, cursor, state)

/-- How many items the enumeration has in all. A cursor that is not open has none. -/
def count (session : Import σ) (cursor : Cursor) (state : σ) : Except Failure UInt32 × σ :=
  if cursor.isOpened then
    let (answer, state) := session.count cursor.handle state
    (answer.mapError (.countFailed cursor.query), state)
  else (.ok 0, state)

/-- Moves the enumeration so many items from its start. A cursor that is not open has nothing to move. -/
def reset (session : Import σ) (cursor : Cursor) (offset : UInt32) (state : σ) : Except Failure Unit × σ :=
  if cursor.isOpened then
    let (answer, state) := session.reset cursor.handle offset state
    (answer.mapError (.resetFailed cursor.query offset.toNat), state)
  else (.ok (), state)

def close (session : Import σ) (cursor : Cursor) (state : σ) : σ :=
  if cursor.isOpened then session.close cursor.handle state else state

end Cursor

end MetaParity
