import MetaParity.Native.BenchmarkLibrary

/-!
# Scripted components

A component that follows a script. It serves listings given one by one or by a model, creates a handle on the first page
of an enumeration, and answers the statuses that the script sets.
-/

namespace MetaParity.Native

structure Script where
  /-- The status of every factory, and whether it hands out no object. -/
  factoryStatus : Status := .ok
  factoryNull : Bool := false
  /-- The status of opening a session, and whether no object is handed out. -/
  openStatus : Status := .ok
  openNull : Bool := false
  /-- The status of opening images of certain lengths; no object is handed out for them. -/
  openByLength : List (Nat × Status) := []
  model : Option Model := none
  /-- Listings of a kind and scope that the model does not have; the first one counts. -/
  listings : List (Kind × Token × List Token) := []
  /-- Signatures by token with their status, and whether their pointer stays null; the last one counts. -/
  signatures : List (Token × Status × Bool × Bytes) := []
  /-- The status of the page at a position of an enumeration, or of every page; the first one counts. -/
  pages : List (Kind × Option Nat × Status) := []
  /-- Kinds whose first page creates no handle and yields nothing. -/
  withoutHandle : List Kind := []
  /-- By how much a page that yields items overstates their number. -/
  overstated : List (Kind × Nat) := []
  countSkew : List (Kind × Int) := []
  countStatus : Status := .ok
  resetStatus : Status := .ok
  prepareStatus : Status := .ok
  benchmarks : List (String × Status) := []
  missing : List String := []

/-- An open enumeration: its kind and items, how many of them lie behind it, and how often it was paged. -/
structure OpenListing where
  kind : Kind
  items : List Token
  position : Nat := 0
  pages : Nat := 0
deriving DecidableEq, Inhabited

structure ScriptState where
  objects : Nat := 0
  handles : Nat := 0
  enumerations : List (Nat × OpenListing) := []
deriving DecidableEq, Inhabited

namespace ScriptState

def get? (state : ScriptState) (handle : Handle) : Option OpenListing :=
  state.enumerations.lookup handle.id

def set (state : ScriptState) (handle : Handle) (listing : OpenListing) : ScriptState :=
  { state with
    enumerations := state.enumerations.map fun entry =>
      if entry.1 = handle.id then (entry.1, listing) else entry }

def create (state : ScriptState) (listing : OpenListing) : Handle × ScriptState :=
  let id := state.handles + 1
  (⟨id⟩, { state with handles := id, enumerations := (id, listing) :: state.enumerations })

def close (state : ScriptState) (handle : Handle) : ScriptState :=
  { state with enumerations := state.enumerations.filter (·.1 ≠ handle.id) }

def object (state : ScriptState) (status : Status) (null : Bool) : Reply × ScriptState :=
  if null then ({ status }, state)
  else ({ status, object := ⟨state.objects + 1⟩ }, { state with objects := state.objects + 1 })

end ScriptState

namespace Script

def factories : List String :=
  ["MetaDataGetDispenser", "OtherClassFactory", "GetDispenser", "OtherInterfaceFactory"]

def exports (script : Script) (symbol : String) : Bool :=
  (factories ++ benchmarkExports).contains symbol && !script.missing.contains symbol

def hasListing (model : Model) (kind : Kind) (scope : Token) : Bool :=
  match kind with
  | .interfaceImpls | .methods | .fields | .members | .properties | .events => (model.type? scope).isSome
  | .params => (model.method? scope).isSome
  | _ => true

/-- What an enumeration of a kind yields for a scope, which is nil for kinds without one. -/
def items (script : Script) (kind : Kind) (scope : Token) : List Token :=
  match script.model.filter (hasListing · kind scope) with
  | some model => model.items (.ofKind kind scope)
  | none =>
    ((script.listings.find? fun listing => listing.1 = kind ∧ listing.2.1 = scope).map (·.2.2)).getD []

def pageStatus (script : Script) (kind : Kind) (position : Nat) : Status :=
  ((script.pages.find? fun rule => rule.1 = kind ∧ rule.2.1.all (· = position)).map (·.2.2)).getD .ok

def page (script : Script) (handle : Handle) (listing : OpenListing) (capacity : Nat) (state : ScriptState) :
    Reply × ScriptState :=
  let status := script.pageStatus listing.kind listing.pages
  let turned := { listing with pages := listing.pages + 1 }
  if status.isFailure then ({ status, handle }, state.set handle turned)
  else
    let tokens := (listing.items.drop listing.position).take capacity
    let extra := if tokens.isEmpty then 0 else (script.overstated.lookup listing.kind).getD 0
    ({ status, handle, tokens, number := .ofNat (tokens.length + extra) },
      state.set handle { turned with position := listing.position + tokens.length })

def enumerate (script : Script) (kind : Kind) (scope : Token) (handle : Handle) (capacity : Nat)
    (state : ScriptState) : Reply × ScriptState :=
  if handle.isOpened then
    match state.get? handle with
    | some listing => script.page handle listing capacity state
    | none => ({ status := .invalidArgument, handle }, state)
  else if script.withoutHandle.contains kind then ({ status := script.pageStatus kind 0 }, state)
  else
    let listing : OpenListing := { kind, items := script.items kind scope }
    let (handle, state) := state.create listing
    script.page handle listing capacity state

def count (script : Script) (handle : Handle) (state : ScriptState) : Reply :=
  match state.get? handle with
  | none => { status := .invalidArgument }
  | some listing =>
    let skew := (script.countSkew.lookup listing.kind).getD 0
    { status := script.countStatus, number := .ofNat (listing.items.length + skew).toNat }

def reset (script : Script) (handle : Handle) (position : UInt32) (state : ScriptState) : Reply × ScriptState :=
  match state.get? handle with
  | none => ({ status := .invalidArgument }, state)
  | some listing =>
    ({ status := script.resetStatus },
      if script.resetStatus.isFailure then state else state.set handle { listing with position := position.toNat })

def signature (script : Script) (token : Token) : Reply :=
  match script.signatures.reverse.lookup token with
  | some (status, null, bytes) => { status, bytes := if null then none else some bytes }
  | none =>
    match script.model.bind (·.blob? token) with
    | some bytes => { bytes := some bytes }
    | none => { status := .recordNotFound }

def openScope (script : Script) (image : Bytes) (state : ScriptState) : Reply × ScriptState :=
  match script.openByLength.lookup image.length with
  | some status => ({ status }, state)
  | none => state.object script.openStatus script.openNull

def answer (script : Script) (request : Request) (state : ScriptState) : Reply × ScriptState :=
  match request with
  | .factory .. => state.object script.factoryStatus script.factoryNull
  | .openScope _ image _ _ => script.openScope image state
  | .enumerate _ wanted scope handle capacity =>
    match Kind.all.find? (slot · = wanted) with
    | some kind => script.enumerate kind (scope.getD .nil) handle capacity state
    | none => ({}, state)
  | .count _ handle => (script.count handle state, state)
  | .reset _ handle position => script.reset handle position state
  | .close _ handle => ({}, state.close handle)
  | .signature _ token => (script.signature token, state)
  | .release .. => ({}, state)
  | .prepare .. => ({ status := script.prepareStatus }, state)
  | .benchmark symbol _ => ({ status := (script.benchmarks.lookup symbol).getD .ok }, state)

def size (script : Script) : Nat :=
  (script.model.map (·.size)).getD 0 + script.listings.foldr (fun listing rest => listing.2.2.length + rest) 0

/-- The component that follows a script. No enumeration has more items than the script lists in all, and every page but
the last yields one at least. -/
def component (script : Script) : Component ScriptState where
  exports := script.exports
  answer := script.answer
  pageLimit _ := script.size + 1

end Script

end MetaParity.Native
