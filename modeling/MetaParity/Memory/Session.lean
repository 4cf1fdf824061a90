import MetaParity.Import
import MetaParity.Session

/-!
# In-memory sessions

An import over a model. It follows the contract of the native enumerators: the first page creates a handle, an empty
page marks the end, the count does not depend on progress, and a reset moves to any offset. A fault plan injects
failures and breaches of that contract, and statistics tell how handles were used. Sessions of one dispenser have
handles of their own and share their statistics.
-/

namespace MetaParity.Memory

/-! ## Sessions -/

/-- The failures and breaches to inject. A status is answered as a failure whatever its sign. -/
structure FaultPlan where
  opening : Option Status := none
  /-- Every page of this kind fails, after the handle was created. -/
  paging : Option (Kind × Status) := none
  countSkew : Option (Kind × Int) := none
  reset : Option Status := none
  lookup : Option Status := none
  /-- Pages of this kind claim one item more than they hold. -/
  pageOverrun : Option Kind := none
deriving DecidableEq, Inhabited

structure Stats where
  /-- Handles created by a first page. -/
  opened : Nat := 0
  closed : Nat := 0
  /-- Close calls for a handle that is not open. -/
  doubleCloses : Nat := 0
  /-- Page, count and reset calls for a handle that is not open. -/
  unknownHandleCalls : Nat := 0
  /-- Resets that went well. -/
  resets : Nat := 0
deriving DecidableEq, Inhabited

/-- An open enumeration: its kind, all its items, and how many of them lie behind it. -/
structure Enumeration where
  kind : Kind
  items : List Token
  position : Nat := 0
deriving DecidableEq, Inhabited

/-- The open enumerations of a session by handle, and the last handle that was created. -/
structure HandleTable where
  last : Nat := 0
  entries : List (Nat × Enumeration) := []
deriving DecidableEq, Inhabited

namespace HandleTable

def get? (table : HandleTable) (handle : Handle) : Option Enumeration :=
  table.entries.lookup handle.id

def move (table : HandleTable) (handle : Handle) (position : Nat) : HandleTable :=
  { table with
    entries := table.entries.map fun entry =>
      if entry.1 = handle.id then (entry.1, { entry.2 with position }) else entry }

/-- Opens an enumeration under a handle that was never used before. -/
def add (table : HandleTable) (enumeration : Enumeration) : Handle × HandleTable :=
  (⟨table.last + 1⟩, ⟨table.last + 1, (table.last + 1, enumeration) :: table.entries⟩)

def remove (table : HandleTable) (handle : Handle) : HandleTable :=
  { table with entries := table.entries.filter (·.1 ≠ handle.id) }

def size (table : HandleTable) : Nat :=
  table.entries.length

end HandleTable

structure State where
  table : HandleTable := {}
  stats : Stats := {}
deriving DecidableEq, Inhabited

namespace State

def noteUnknown (state : State) : State :=
  { state with stats.unknownHandleCalls := state.stats.unknownHandleCalls + 1 }

end State

def pageOf (faults : FaultPlan) (handle : Handle) (capacity : Nat) (state : State) : PageReply × State :=
  match state.table.get? handle with
  | none => (⟨handle, [], .error .invalidArgument⟩, state.noteUnknown)
  | some enumeration =>
    match faults.paging.filter (·.1 = enumeration.kind) with
    | some (_, status) => (⟨handle, [], .error status⟩, state)
    | none =>
      let written := (enumeration.items.drop enumeration.position).take capacity
      let extra := if faults.pageOverrun = some enumeration.kind ∧ written ≠ [] then 1 else 0
      (⟨handle, written, .ok (written.length + extra)⟩,
        { state with table := state.table.move handle (enumeration.position + written.length) })

/-- The next page of a query; a handle that is not open yet is opened first. -/
def page (model : Model) (faults : FaultPlan) (handle : Handle) (query : Query) (capacity : Nat) (state : State) :
    PageReply × State :=
  if handle.isOpened then pageOf faults handle capacity state
  else
    let (handle, table) := state.table.add ⟨query.kind, model.items query, 0⟩
    pageOf faults handle capacity { table, stats := { state.stats with opened := state.stats.opened + 1 } }

/-- The number, or the nearest that 32 bits hold. -/
def clampCount (n : Int) : UInt32 :=
  .ofNat (min n.toNat 0xffffffff)

def count (faults : FaultPlan) (handle : Handle) (state : State) : Except Status UInt32 × State :=
  match state.table.get? handle with
  | none => (.error .invalidArgument, state.noteUnknown)
  | some enumeration =>
    let skew := ((faults.countSkew.filter (·.1 = enumeration.kind)).map (·.2)).getD 0
    (.ok (clampCount (enumeration.items.length + skew)), state)

def reset (faults : FaultPlan) (handle : Handle) (position : UInt32) (state : State) : Except Status Unit × State :=
  match faults.reset with
  | some status => (.error status, state)
  | none =>
    if (state.table.get? handle).isSome then
      (.ok (), { table := state.table.move handle position.toNat
                 stats := { state.stats with resets := state.stats.resets + 1 } })
    else (.error .invalidArgument, state.noteUnknown)

def close (handle : Handle) (state : State) : State :=
  if (state.table.get? handle).isSome then
    { table := state.table.remove handle, stats := { state.stats with closed := state.stats.closed + 1 } }
  else { state with stats.doubleCloses := state.stats.doubleCloses + 1 }

def signature (model : Model) (faults : FaultPlan) (token : Token) : Except Status Blob :=
  match faults.lookup with
  | some status => .error status
  | none =>
    match model.blob? token with
    | some bytes => .ok { bytes }
    | none => .error .recordNotFound

/-- A session over a model with faults. No enumeration has more items than the model has tokens, and every page but the
last yields one at least. -/
def session (model : Model) (faults : FaultPlan) : Import State where
  page := page model faults
  count := count faults
  reset := reset faults
  close := close
  signature token state := (signature model faults token, state)
  pageLimit _ := model.size + 1

/-! ## Dispensers -/

structure DispenserState where
  stats : Stats := {}
  tables : List HandleTable := []
deriving DecidableEq, Inhabited

def sessionPart (index : Nat) : Part DispenserState State where
  get state := ⟨state.tables.getD index {}, state.stats⟩
  put session state := { stats := session.stats, tables := state.tables.set index session.table }

/-- A dispenser over a model with faults; the bytes of the image do not matter. -/
def dispenser (side : Side) (model : Model) (faults : FaultPlan) (part : Part ω DispenserState) : Dispenser ω where
  side
  openScope _ state :=
    match faults.opening with
    | some status => (.error (.openFailed (side.name ++ " OpenScopeOnMemory") status), state)
    | none =>
      let held := part.get state
      let opened := ((session model faults).within (sessionPart held.tables.length)).within part
      (.ok { opened with release := id }, part.put { held with tables := held.tables ++ [{}] } state)

def dispensers (baseline current : Model × FaultPlan) : DispenserPair (DispenserState × DispenserState) where
  baseline := dispenser .baseline baseline.1 baseline.2 .first
  current := dispenser .current current.1 current.2 .second

end MetaParity.Memory
