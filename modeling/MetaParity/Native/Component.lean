import MetaParity.Import
import MetaParity.Query
import MetaParity.Text.Basic

/-!
# Native components

A native library as its callers see it: the names it exports, and what it answers to requests. Objects that it hands out
are told apart by their pointers. What a component answers, and what it does to the state, is unrestricted.
-/

namespace MetaParity.Native

/-! ## Identifiers -/

structure Guid where
  first : UInt32
  second : UInt16
  third : UInt16
  rest : List UInt8
deriving DecidableEq

namespace Guid

def text (guid : Guid) : String :=
  Hex.fixed 8 guid.first.toNat ++ "-" ++ Hex.fixed 4 guid.second.toNat ++ "-" ++ Hex.fixed 4 guid.third.toNat
    ++ "-" ++ Hex.bytes (guid.rest.take 2) ++ "-" ++ Hex.bytes (guid.rest.drop 2)

def tagged (guid : Guid) : String :=
  "Guid(" ++ guid.text ++ ")"

def dispenserClass : Guid :=
  ⟨0xe5cb7a31, 0x7512, 0x11d2, [0x89, 0xce, 0x00, 0x80, 0xc7, 0x92, 0xe5, 0xd8]⟩

def dispenser : Guid :=
  ⟨0x809c652e, 0x7396, 0x11d2, [0x97, 0x71, 0x00, 0xa0, 0xc9, 0xb4, 0xd5, 0x0c]⟩

def metadataImport : Guid :=
  ⟨0x7dac8207, 0xd3ae, 0x4c75, [0x9b, 0x67, 0x92, 0x80, 0x1a, 0x49, 0x7d, 0x44]⟩

end Guid

/-! ## Components -/

/-- A pointer to an object of a component. Zero points to nothing. -/
structure Pointer where
  id : Nat
deriving DecidableEq, Inhabited

namespace Pointer

def null : Pointer := ⟨0⟩

def isNull (pointer : Pointer) : Bool :=
  pointer.id == 0

end Pointer

inductive Interface where
  | dispenser
  | metadataImport
deriving DecidableEq, Inhabited

namespace Interface

def guid : Interface → Guid
  | dispenser => .dispenser
  | metadataImport => .metadataImport

def name : Interface → String
  | dispenser => "dispenser"
  | metadataImport => "import"

end Interface

/-- What a component is asked to do. -/
inductive Request where
  /-- A factory export makes an object; some conventions name its class. -/
  | factory (symbol : String) (objectClass : Option Guid) (interface : Interface)
  | openScope (dispenser : Pointer) (image : Bytes) (flags : Nat) (interface : Interface)
  | enumerate (session : Pointer) (slot : Nat) (scope : Option Token) (handle : Handle) (capacity : Nat)
  | count (session : Pointer) (handle : Handle)
  | reset (session : Pointer) (handle : Handle) (position : UInt32)
  | close (session : Pointer) (handle : Handle)
  | signature (session : Pointer) (token : Token)
  | release (interface : Interface) (object : Pointer)
  | prepare (image : Bytes) (dispenser : Pointer)
  | benchmark (symbol : String) (iterations : Int32)
deriving DecidableEq

/-- What a component answers: a status, and what it wrote through the out pointers of the request. -/
structure Reply where
  status : Status := .ok
  object : Pointer := .null
  handle : Handle := .unopened
  number : UInt32 := 0
  tokens : List Token := []
  /-- The bytes pointed to, if the pointer points to anything. -/
  bytes : Option Bytes := none
deriving DecidableEq, Inhabited

structure Component (ω : Type) where
  exports : String → Bool
  answer : Request → ω → Reply × ω
  pageLimit : ω → Nat

namespace Component

def within (component : Component σ) (part : Part ω σ) : Component ω where
  exports := component.exports
  answer request := part.run (component.answer request)
  pageLimit state := component.pageLimit (part.get state)

def traced (component : Component σ) : Component (σ × List (Request × Reply)) where
  exports := component.exports
  answer request state :=
    let (reply, inner) := component.answer request state.1
    (reply, inner, state.2 ++ [(request, reply)])
  pageLimit state := component.pageLimit state.1

end Component

abbrev Libraries (ω : Type) := String → Option (Component ω)

end MetaParity.Native
