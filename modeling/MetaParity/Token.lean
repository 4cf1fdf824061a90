import MetaParity.Text.Basic

/-!
# Metadata tokens

A token names one metadata element: a table in its high byte and a row of that table below it. Nothing here looks
inside a token except to write it and to build examples.
-/

namespace MetaParity

structure Token where
  raw : UInt32
deriving DecidableEq, Inhabited

namespace Token

def nil : Token := ⟨0⟩

/-- The token of a table and a row; a row keeps its low 24 bits. -/
def ofParts (table : UInt8) (row : UInt32) : Token :=
  ⟨table.toUInt32 <<< 24 ||| row &&& 0xffffff⟩

/-- The table of a token: its high byte. -/
def table (token : Token) : UInt8 :=
  (token.raw >>> 24).toUInt8

def row (token : Token) : UInt32 :=
  token.raw &&& 0xffffff

def isNil (token : Token) : Bool :=
  token.row == 0

def text (token : Token) : String :=
  "0x" ++ Hex.fixed 8 token.raw.toNat

/-- A token as it stands inside the listing of a replay. -/
def tagged (token : Token) : String :=
  "Token(" ++ token.text ++ ")"

end Token

/-- The tables that tokens of this library lie in. -/
inductive Table where
  | module
  | typeRef
  | typeDef
  | fieldDef
  | methodDef
  | paramDef
  | interfaceImpl
  | memberRef
  | signature
  | event
  | property
  | moduleRef
  | typeSpec
  | userString
deriving DecidableEq

namespace Table

def all : List Table :=
  [module, typeRef, typeDef, fieldDef, methodDef, paramDef, interfaceImpl, memberRef, signature, event, property,
   moduleRef, typeSpec, userString]

def code : Table → UInt8
  | module => 0x00
  | typeRef => 0x01
  | typeDef => 0x02
  | fieldDef => 0x04
  | methodDef => 0x06
  | paramDef => 0x08
  | interfaceImpl => 0x09
  | memberRef => 0x0a
  | signature => 0x11
  | event => 0x14
  | property => 0x17
  | moduleRef => 0x1a
  | typeSpec => 0x1b
  | userString => 0x70

def token (table : Table) (row : UInt32) : Token :=
  .ofParts table.code row

end Table

end MetaParity
