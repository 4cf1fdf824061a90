import MetaParity.Model
import MetaParity.Text.Basic

/-!
# Locating metadata

A metadata blob starts with its signature `BSJB`. It stands alone, or inside an executable whose CLI header names its
address and size. Addresses are mapped to offsets by the section table: the first section whose extent covers an
address decides.
-/

namespace MetaParity

inductive Malformed where
  | unknownFormat
  | truncated (part : String)
  | optionalHeader (magic : UInt16)
  | noCliHeader
  | unmappedAddress (address : UInt32)
  | badSignature
deriving DecidableEq, Inhabited, Repr

def Malformed.message : Malformed → String
  | unknownFormat => "neither a PE file nor a metadata blob"
  | truncated part => s!"truncated {part}"
  | optionalHeader magic => s!"unsupported optional header magic {Hex.number magic.toNat}"
  | noCliHeader => "no CLI header"
  | unmappedAddress address => s!"RVA {Hex.number address.toNat} is outside every section"
  | badSignature => "metadata does not start with the BSJB signature"

inductive ImageKind where
  | raw
  | executable
deriving DecidableEq, Inhabited, Repr

namespace ImageKind

def name : ImageKind → String
  | raw => "raw"
  | executable => "pe"

def longName : ImageKind → String
  | raw => "Raw"
  | executable => "PortableExecutable"

end ImageKind

structure Extent where
  start : Nat
  stop : Nat
deriving DecidableEq, Inhabited, Repr

def Extent.length (extent : Extent) : Nat :=
  extent.stop - extent.start

def Extent.of (extent : Extent) (bytes : Bytes) : Bytes :=
  (bytes.drop extent.start).take extent.length

namespace Locate

def word? (bytes : Bytes) (offset : Nat) : Option UInt16 :=
  match bytes.drop offset with
  | a :: b :: _ => some (a.toUInt16 ||| b.toUInt16 <<< 8)
  | _ => none

def double? (bytes : Bytes) (offset : Nat) : Option UInt32 :=
  match bytes.drop offset with
  | a :: b :: c :: d :: _ => some (a.toUInt32 ||| b.toUInt32 <<< 8 ||| c.toUInt32 <<< 16 ||| d.toUInt32 <<< 24)
  | _ => none

def required (part : String) (word : Option α) : Except Malformed α :=
  match word with
  | some value => .ok value
  | none => .error (.truncated part)

/-- The signature of a metadata blob: the letters `BSJB`. -/
def signature : UInt32 := 0x424a5342

def executableMagic : Bytes := [0x4d, 0x5a]

/-- The four bytes that open the header of an executable: the letters `PE` and two zeros. -/
def headerMagic : Bytes := [0x50, 0x45, 0, 0]

def cliDirectory : Nat := 14

def sectionHeaderSize : Nat := 40

structure SectionHeader where
  virtualSize : UInt32
  virtualAddress : UInt32
  rawSize : UInt32
  rawPointer : UInt32
deriving DecidableEq, Inhabited, Repr

namespace SectionHeader

def read? (bytes : Bytes) : Option SectionHeader := do
  return {
    virtualSize := ← double? bytes 8
    virtualAddress := ← double? bytes 12
    rawSize := ← double? bytes 16
    rawPointer := ← double? bytes 20 }

/-- How many addresses a section covers: the larger of its two sizes. -/
def reach (header : SectionHeader) : Nat :=
  max header.virtualSize.toNat header.rawSize.toNat

def covers (header : SectionHeader) (address : UInt32) : Bool :=
  header.virtualAddress ≤ address && address.toNat - header.virtualAddress.toNat < header.reach

def offset (header : SectionHeader) (address : UInt32) : Nat :=
  address.toNat - header.virtualAddress.toNat + header.rawPointer.toNat

end SectionHeader

/-- The offset of an address, by the first of `count` section headers that covers it; an offset beyond thirty-two bits
does not count as mapped. -/
def offsetOf (address : UInt32) : (count : Nat) → (table : Bytes) → Except Malformed Nat
  | 0, _ => .error (.unmappedAddress address)
  | count + 1, table => do
    let header ← required "section table" (SectionHeader.read? table)
    if header.covers address then
      if header.offset address < 0x100000000 then return header.offset address
      else throw (.unmappedAddress address)
    else offsetOf address count (table.drop sectionHeaderSize)

/-- Where the optional header keeps the number of directory entries, and where the entries start. -/
def directoryOffsets (magic : UInt16) : Except Malformed (Nat × Nat) :=
  if magic = 0x10b then .ok (92, 96)
  else if magic = 0x20b then .ok (108, 112)
  else .error (.optionalHeader magic)

structure Layout where
  sectionCount : Nat
  sectionTable : Nat
  cliAddress : UInt32
deriving DecidableEq, Inhabited, Repr

def Layout.read (bytes : Bytes) : Except Malformed Layout := do
  let start := (← required "DOS header" (double? bytes 0x3c)).toNat
  if (bytes.drop start).take 4 ≠ headerMagic then throw .unknownFormat
  let sectionCount ← required "COFF header" (word? bytes (start + 6))
  let optionalSize ← required "COFF header" (word? bytes (start + 20))
  let optional := start + 24
  let (countOffset, entriesOffset) ← directoryOffsets (← required "optional header" (word? bytes optional))
  let directories ← required "optional header" (double? bytes (optional + countOffset))
  if directories.toNat ≤ cliDirectory then throw .noCliHeader
  let cliAddress ← required "data directories" (double? bytes (optional + entriesOffset + 8 * cliDirectory))
  if cliAddress = 0 then throw .noCliHeader
  return { sectionCount := sectionCount.toNat, sectionTable := optional + optionalSize.toNat, cliAddress }

def Layout.offsetOf (layout : Layout) (bytes : Bytes) (address : UInt32) : Except Malformed Nat :=
  Locate.offsetOf address layout.sectionCount (bytes.drop layout.sectionTable)

def inExecutable (bytes : Bytes) : Except Malformed Extent := do
  let layout ← Layout.read bytes
  let header ← layout.offsetOf bytes layout.cliAddress
  let address ← required "CLI header" (double? bytes (header + 8))
  let size ← required "CLI header" (double? bytes (header + 12))
  let start ← layout.offsetOf bytes address
  let extent : Extent := { start, stop := start + size.toNat }
  if bytes.length < extent.stop then throw (.truncated "metadata")
  if double? bytes start ≠ some signature then throw .badSignature
  return extent

end Locate

/-- Finds the metadata in bytes: all of them if they start with the signature, else by the headers of an executable. -/
def locate (bytes : Bytes) : Except Malformed (ImageKind × Extent) :=
  if Locate.double? bytes 0 = some Locate.signature then .ok (.raw, { start := 0, stop := bytes.length })
  else if bytes.take 2 = Locate.executableMagic then (Locate.inExecutable bytes).map (.executable, ·)
  else .error .unknownFormat

end MetaParity
