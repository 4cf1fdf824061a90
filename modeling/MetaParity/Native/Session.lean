import MetaParity.Native.Component
import MetaParity.Session

/-!
# Native sessions

Sessions and dispensers over the objects of a native component. A negative status is a failure; every other one is a
success. The handle that a page call wrote back is kept even if the call failed.
-/

namespace MetaParity.Native

/-- The slot of the session's interface at which a kind is enumerated. -/
def slot : Kind → Nat
  | .typeDefs => 6
  | .interfaceImpls => 7
  | .typeRefs => 8
  | .members => 16
  | .methods => 18
  | .fields => 20
  | .params => 22
  | .properties => 32
  | .events => 33
  | .moduleRefs => 43
  | .signatures => 49
  | .typeSpecs => 50
  | .userStrings => 51

def maxCapacity : Nat := 0xffffffff

/-- The flags with which a session is opened: for reading only. -/
def openFlags : Nat := 0x10

/-- A value that a successful call wrote, or the status of one that failed. -/
def Reply.result (reply : Reply) (value : α) : Except Status α :=
  reply.status.toExcept.map fun _ => value

namespace Component

def importOf (component : Component ω) (object : Pointer) : Import ω where
  page handle query capacity state :=
    let (reply, state) := component.answer
      (.enumerate object (slot query.kind) query.scope? handle (min capacity maxCapacity)) state
    (⟨reply.handle, reply.tokens, reply.result reply.number.toNat⟩, state)
  count handle state :=
    let (reply, state) := component.answer (.count object handle) state
    (reply.result reply.number, state)
  reset handle position state :=
    let (reply, state) := component.answer (.reset object handle position) state
    (reply.result (), state)
  close handle state := (component.answer (.close object handle) state).2
  signature token state :=
    let (reply, state) := component.answer (.signature object token) state
    (reply.result { bytes := reply.bytes.getD [] }, state)
  pageLimit := component.pageLimit

def release (component : Component ω) (interface : Interface) (object : Pointer) (state : ω) : ω :=
  (component.answer (.release interface object) state).2

def dispenserOf (component : Component ω) (side : Side) (object : Pointer) : Dispenser ω where
  side
  openScope image state :=
    let failed (status : Status) : Failure := .openFailed (side.name ++ " OpenScopeOnMemory") status
    if maxCapacity < image.length then (.error (failed .invalidArgument), state)
    else
      let (reply, state) := component.answer (.openScope object image openFlags .metadataImport) state
      if reply.status.isFailure then (.error (failed reply.status), state)
      else if reply.object.isNull then (.error (failed .pointer), state)
      else
        (.ok { component.importOf reply.object with
          release := component.release .metadataImport reply.object }, state)

end Component

end MetaParity.Native
