import MetaParity.Signature
import MetaParity.Status

/-!
# Imports

An import is a read-only session over one metadata scope, given by what its operations do to a state that they pass on.
Any state and any answers are allowed, so a statement about all imports covers every native layer.
-/

namespace MetaParity

/-- The handle of an enumeration. Zero stands for one that is not open yet. -/
structure Handle where
  id : Nat
deriving DecidableEq, Inhabited

namespace Handle

def unopened : Handle := ⟨0⟩

def isOpened (handle : Handle) : Bool :=
  handle.id != 0

end Handle

/-- What a page call does: the handle that it writes back even when it fails, the tokens at the start of the buffer, and
the number of items it claims. -/
structure PageReply where
  handle : Handle
  written : List Token
  outcome : Except Status Nat

/-- A session over one metadata scope. -/
structure Import (σ : Type) where
  page : Handle → Query → Nat → σ → PageReply × σ
  count : Handle → σ → Except Status UInt32 × σ
  reset : Handle → UInt32 → σ → Except Status Unit × σ
  close : Handle → σ → σ
  signature : Token → σ → Except Status Blob × σ
  /-- How many pages a drain that starts in a state may take before it is given up. -/
  pageLimit : σ → Nat

/-- A part of a state: how it is read, and how it is replaced. -/
structure Part (ω σ : Type) where
  get : ω → σ
  put : σ → ω → ω

def Part.run (part : Part ω σ) (operation : σ → α × σ) (state : ω) : α × ω :=
  let (answer, inner) := operation (part.get state)
  (answer, part.put inner state)

def Part.first : Part (σ × τ) σ := ⟨Prod.fst, fun s pair => (s, pair.2)⟩

def Part.second : Part (σ × τ) τ := ⟨Prod.snd, fun t pair => (pair.1, t)⟩

/-- The element at a position of a list; a value put beyond its end is lost. -/
def Part.nth [Inhabited σ] (position : Nat) : Part (List σ) σ :=
  ⟨fun states => states[position]?.getD default, fun inner states => states.set position inner⟩

def Import.within (session : Import σ) (part : Part ω σ) : Import ω where
  page handle query capacity := part.run (session.page handle query capacity)
  count handle := part.run (session.count handle)
  reset handle position := part.run (session.reset handle position)
  close handle state := part.put (session.close handle (part.get state)) state
  signature token := part.run (session.signature token)
  pageLimit state := session.pageLimit (part.get state)

inductive Call where
  | page (handle : Handle) (query : Query) (capacity : Nat) (reply : PageReply)
  | count (handle : Handle) (answer : Except Status UInt32)
  | reset (handle : Handle) (position : UInt32) (answer : Except Status Unit)
  | close (handle : Handle)
  | signature (token : Token) (answer : Except Status Blob)

/-- The import with what `mark` makes of every call noted at the end of a list. -/
def Import.tracedBy (mark : Call → κ) (session : Import σ) : Import (σ × List κ) where
  page handle query capacity state :=
    let (reply, inner) := session.page handle query capacity state.1
    (reply, inner, state.2 ++ [mark (.page handle query capacity reply)])
  count handle state :=
    let (answer, inner) := session.count handle state.1
    (answer, inner, state.2 ++ [mark (.count handle answer)])
  reset handle position state :=
    let (answer, inner) := session.reset handle position state.1
    (answer, inner, state.2 ++ [mark (.reset handle position answer)])
  close handle state := (session.close handle state.1, state.2 ++ [mark (.close handle)])
  signature token state :=
    let (answer, inner) := session.signature token state.1
    (answer, inner, state.2 ++ [mark (.signature token answer)])
  pageLimit state := session.pageLimit state.1

def Import.traced (session : Import σ) : Import (σ × List Call) :=
  session.tracedBy id

end MetaParity
