import MetaParity.Proofs.Image.Locate
import Mathlib.Order.CompletePartialOrder
import Mathlib.Order.Interval.Set.Disjoint

/-! # Locating undoes building

An executable that is built to hold a blob, wherever its headers and sections lie, is one in which the blob is found. -/

namespace MetaParity

namespace Locate

/-! ## Sections -/

namespace SectionHeader

variable {header : SectionHeader} {address : UInt32} {range : Extent}

/-- The bytes of a section header between its name and the fields that the mapping does not read. -/
def fields (header : SectionHeader) : Bytes :=
  littleEndian 4 header.virtualSize.toNat ++ (littleEndian 4 header.virtualAddress.toNat
    ++ (littleEndian 4 header.rawSize.toNat ++ littleEndian 4 header.rawPointer.toNat))

theorem read?_eq_some_iff {bytes : Bytes} : read? bytes = some header ↔ bytes.HoldsAt 8 header.fields := by
  simp only [fields, Bytes.HoldsAt.append_iff, length_littleEndian, ← double?_eq_some_iff]
  rcases header with ⟨virtualSize, virtualAddress, rawSize, rawPointer⟩
  simp only [read?, bind, Option.bind_eq_some_iff, pure, Option.some.injEq, SectionHeader.mk.injEq]
  constructor
  · rintro ⟨_, hsize, _, haddress, _, hraw, _, hpointer, rfl, rfl, rfl, rfl⟩
    exact ⟨hsize, haddress, hraw, hpointer⟩
  · rintro ⟨hsize, haddress, hraw, hpointer⟩
    exact ⟨_, hsize, _, haddress, _, hraw, _, hpointer, rfl, rfl, rfl, rfl⟩

def extent (header : SectionHeader) : Set Nat :=
  .Ico header.virtualAddress.toNat (header.virtualAddress.toNat + header.reach)

theorem covers_iff : header.covers address ↔ address.toNat ∈ header.extent := by
  simp only [covers, extent, Bool.and_eq_true, decide_eq_true_eq, UInt32.le_iff_toNat_le, Set.mem_Ico]
  omega

/-- A range of the file lies in the raw data of a section, which puts its start at the address. -/
structure Stores (header : SectionHeader) (address : UInt32) (range : Extent) : Prop where
  start_le : header.rawPointer.toNat ≤ range.start
  stop_le : range.stop ≤ header.rawPointer.toNat + header.rawSize.toNat
  address_eq : address.toNat = header.virtualAddress.toNat + (range.start - header.rawPointer.toNat)

/-- Raw data is mapped as far as it goes, also beyond the size in memory. -/
theorem Stores.covers (h : header.Stores address range) (hrange : range.start < range.stop) :
    header.covers address := by
  have hstart := h.start_le
  have hstop := h.stop_le
  have hreach : header.rawSize.toNat ≤ header.reach := Nat.le_max_right _ _
  rw [covers_iff, h.address_eq, extent, Set.mem_Ico]
  omega

theorem Stores.offset_eq (h : header.Stores address range) : header.offset address = range.start := by
  have hstart := h.start_le
  rw [offset, h.address_eq]
  omega

end SectionHeader

/-- Where no two sections share an address, the one that stores a range maps its address to its start. -/
theorem offsetOf_eq_of_stores {sections : List SectionHeader} {table : Bytes} {header : SectionHeader}
    {address : UInt32} {range : Extent} (htable : ∀ position < sections.length,
      headerAt? table position = sections[position]?)
    (hapart : sections.Pairwise fun a b => Disjoint a.extent b.extent) (hmem : header ∈ sections)
    (hstores : header.Stores address range) (hrange : range.start < range.stop) (hfits : range.start < 0x100000000) :
    offsetOf address sections.length table = .ok range.start := by
  have hcovers := hstores.covers hrange
  obtain ⟨position, hposition, rfl⟩ := List.mem_iff_getElem.mp hmem
  refine offsetOf_eq_ok_iff.mpr ⟨position, _, hposition, ?_, hcovers, hstores.offset_eq, hfits, fun before hlt => ?_⟩
  · rw [htable position hposition, List.getElem?_eq_getElem hposition]
  · have hbefore := hlt.trans hposition
    refine ⟨sections[before], by rw [htable before hbefore, List.getElem?_eq_getElem hbefore], ?_⟩
    have hdisjoint := List.pairwise_iff_getElem.mp hapart before position hbefore hposition hlt
    rw [Bool.eq_false_iff, ne_eq, SectionHeader.covers_iff]
    exact fun h => Set.disjoint_left.mp hdisjoint h (SectionHeader.covers_iff.mp hcovers)

/-! ## Executables -/

inductive Form where
  | narrow
  | wide
deriving DecidableEq

namespace Form

def magic : Form → UInt16
  | narrow => 0x10b
  | wide => 0x20b

def countOffset : Form → Nat
  | narrow => 92
  | wide => 108

theorem directoryOffsets_eq (form : Form) :
    directoryOffsets form.magic = .ok (form.countOffset, form.countOffset + 4) := by
  cases form <;> rfl

end Form

structure Blueprint where
  start : UInt32
  form : Form
  /-- How long the optional header is said to be: the section headers follow it. -/
  optionalSize : UInt16
  directories : UInt32
  sections : List SectionHeader
  cliAddress : UInt32
  cliHeader : Extent
  metadataAddress : UInt32
  metadata : Extent

namespace Blueprint

def optional (plan : Blueprint) : Nat :=
  plan.start.toNat + 24

def sectionTable (plan : Blueprint) : Nat :=
  plan.optional + plan.optionalSize.toNat

/-- The bytes are an executable built to the plan. Its parts may lie anywhere and in any order, and what the other bytes
are does not matter. -/
structure Fits (plan : Blueprint) (bytes : Bytes) : Prop where
  length_lt : bytes.length < 0x100000000
  executable : bytes.HoldsAt 0 executableMagic
  start : bytes.HoldsAt 0x3c (littleEndian 4 plan.start.toNat)
  header : bytes.HoldsAt plan.start.toNat headerMagic
  sections_lt : plan.sections.length < 0x10000
  sectionCount : bytes.HoldsAt (plan.start.toNat + 6) (littleEndian 2 plan.sections.length)
  optionalSize : bytes.HoldsAt (plan.start.toNat + 20) (littleEndian 2 plan.optionalSize.toNat)
  magic : bytes.HoldsAt plan.optional (littleEndian 2 plan.form.magic.toNat)
  directories : bytes.HoldsAt (plan.optional + plan.form.countOffset) (littleEndian 4 plan.directories.toNat)
  directories_le : 15 ≤ plan.directories.toNat
  entry : bytes.HoldsAt (plan.optional + plan.form.countOffset + 4 + 8 * 14) (littleEndian 4 plan.cliAddress.toNat)
  cliAddress_ne : plan.cliAddress ≠ 0
  sections : ∀ (position : Nat) (h : position < plan.sections.length),
    bytes.HoldsAt (plan.sectionTable + 40 * position + 8) plan.sections[position].fields
  apart : plan.sections.Pairwise fun a b => Disjoint a.extent b.extent
  inside : ∀ header ∈ plan.sections, header.rawPointer.toNat + header.rawSize.toNat ≤ bytes.length
  /-- Some section stores the start of the CLI header, which names the address and the size of the metadata. -/
  cliStored : ∃ header ∈ plan.sections, header.Stores plan.cliAddress plan.cliHeader
  cliLength : plan.cliHeader.length = 16
  cliFields : bytes.HoldsAt (plan.cliHeader.start + 8)
    (littleEndian 4 plan.metadataAddress.toNat ++ littleEndian 4 plan.metadata.length)
  /-- The metadata is stored in some section, perhaps the same, and begins with its signature. -/
  metadataStored : ∃ header ∈ plan.sections, header.Stores plan.metadataAddress plan.metadata
  signature : signatureLetters <+: plan.metadata.of bytes

variable {plan : Blueprint} {bytes : Bytes}

def layout (plan : Blueprint) : Layout :=
  { sectionCount := plan.sections.length, sectionTable := plan.sectionTable, cliAddress := plan.cliAddress }

theorem Fits.read_eq (h : plan.Fits bytes) : Layout.read bytes = .ok plan.layout := by
  have hcount : (UInt16.ofNat plan.sections.length).toNat = plan.sections.length :=
    UInt16.toNat_ofNat_of_lt' h.sections_lt
  refine read_eq_ok_iff.mpr ⟨plan.start, UInt16.ofNat plan.sections.length, plan.optionalSize, plan.form.magic,
    (plan.form.countOffset, plan.form.countOffset + 4), plan.directories, double?_eq_some_iff.mpr h.start,
    h.header.take_drop_eq, word?_eq_some_iff.mpr ?_, word?_eq_some_iff.mpr h.optionalSize,
    word?_eq_some_iff.mpr h.magic, plan.form.directoryOffsets_eq, double?_eq_some_iff.mpr h.directories,
    h.directories_le, double?_eq_some_iff.mpr h.entry, h.cliAddress_ne, hcount.symm, rfl⟩
  rw [hcount]
  exact h.sectionCount

theorem Fits.offsetOf_eq (h : plan.Fits bytes) {address : UInt32} {range : Extent} (hrange : range.start < range.stop)
    (hstored : ∃ header ∈ plan.sections, header.Stores address range) :
    plan.layout.offsetOf bytes address = .ok range.start := by
  obtain ⟨header, hmem, hstores⟩ := hstored
  have hfits : range.start < 0x100000000 := by
    have hinside := h.inside header hmem
    have hstop := hstores.stop_le
    have hlength := h.length_lt
    omega
  refine offsetOf_eq_of_stores (fun position hposition => ?_) h.apart hmem hstores hrange hfits
  rw [List.getElem?_eq_getElem hposition]
  refine SectionHeader.read?_eq_some_iff.mpr ?_
  rw [Bytes.HoldsAt.drop_iff, Bytes.HoldsAt.drop_iff]
  exact h.sections position hposition

/-- Bytes built to a plan are located as an executable, with exactly the range of the plan for its metadata. -/
theorem locate_eq_of_fits (plan : Blueprint) (bytes : Bytes) (h : plan.Fits bytes) :
    locate bytes = .ok (.executable, plan.metadata) := by
  have hinside : plan.metadata.stop ≤ bytes.length := by
    obtain ⟨header, hmem, hstores⟩ := h.metadataStored
    exact hstores.stop_le.trans (h.inside header hmem)
  have hlength : 4 ≤ plan.metadata.length := Extent.length_of hinside ▸ h.signature.length_le
  have hstop : plan.metadata.stop = plan.metadata.start + plan.metadata.length := by
    unfold Extent.length at hlength ⊢
    omega
  have hsignature : bytes.HoldsAt plan.metadata.start signatureLetters := h.signature.trans (List.take_prefix _ _)
  have hsize : (UInt32.ofNat plan.metadata.length).toNat = plan.metadata.length := by
    have hle : plan.metadata.length ≤ bytes.length := by omega
    exact UInt32.toNat_ofNat_of_lt' (hle.trans_lt h.length_lt)
  obtain ⟨haddress, hdeclared⟩ := Bytes.HoldsAt.append_iff.mp h.cliFields
  have hcli : plan.cliHeader.start < plan.cliHeader.stop := by
    have hsixteen := h.cliLength
    unfold Extent.length at hsixteen
    omega
  have hplain : ¬bytes.HoldsAt 0 signatureLetters := by
    intro hraw
    have hboth := List.prefix_of_prefix_length_le h.executable hraw (by decide)
    exact absurd hboth (by decide)
  refine locate_eq_ok_iff.mpr (.inr ⟨hplain, h.executable, rfl, ?_⟩)
  refine inExecutable_eq_ok_iff.mpr ⟨plan.layout, plan.cliHeader.start, plan.metadataAddress,
    UInt32.ofNat plan.metadata.length, h.read_eq, h.offsetOf_eq hcli h.cliStored, double?_eq_some_iff.mpr haddress, ?_,
    h.offsetOf_eq (by omega) h.metadataStored, by rw [hsize]; exact hstop, hinside,
    double?_eq_signature_iff.mpr hsignature⟩
  rw [double?_eq_some_iff, hsize]
  simpa [Nat.add_assoc] using hdeclared

/-- An executable with sixteen directory entries, its parts one behind the other. -/
def assemble (form : Form) (sections : List SectionHeader) (cliAddress : UInt32) (contents : Bytes) : Bytes :=
  executableMagic ++ .replicate 58 0 ++ littleEndian 4 0x40
    ++ headerMagic ++ littleEndian 2 0x14c ++ littleEndian 2 sections.length ++ .replicate 12 0
    ++ littleEndian 2 (form.countOffset + 132) ++ .replicate 2 0
    ++ littleEndian 2 form.magic.toNat ++ .replicate (form.countOffset - 2) 0 ++ littleEndian 4 16
    ++ .replicate 112 0 ++ littleEndian 4 cliAddress.toNat ++ .replicate 12 0
    ++ sections.flatMap (fun header => .replicate 8 0 ++ header.fields ++ .replicate 16 0)
    ++ contents

def cliBytes (address : UInt32) (size : Nat) : Bytes :=
  littleEndian 4 72 ++ littleEndian 2 2 ++ littleEndian 2 5 ++ littleEndian 4 address.toNat ++ littleEndian 4 size
    ++ .replicate 56 0

/-- Three sections against the order of their addresses, one of them without raw data. -/
theorem locate_wide_executable :
    let sections : List SectionHeader :=
      [⟨0x1000, 0x6000, 0, 0⟩, ⟨12, 0x4000, 16, 0x208⟩, ⟨72, 0x2000, 72, 0x1c0⟩]
    let plan : Blueprint :=
      { start := 0x40, form := .wide, optionalSize := 240, directories := 16, sections, cliAddress := 0x2000
        cliHeader := ⟨0x1c0, 0x1d0⟩, metadataAddress := 0x4004, metadata := ⟨0x20c, 0x214⟩ }
    let bytes := assemble .wide sections 0x2000
      (cliBytes 0x4004 8 ++ [0xcc, 0, 0, 0] ++ signatureLetters ++ [1, 0, 1, 0] ++ [0, 0, 0, 0])
    plan.Fits bytes ∧ locate bytes = .ok (.executable, ⟨0x20c, 0x214⟩) := by
  intro sections plan bytes
  have hfits : plan.Fits bytes := {
    length_lt := by decide +kernel
    executable := by decide +kernel
    start := by decide +kernel
    header := by decide +kernel
    sections_lt := by decide
    sectionCount := by decide +kernel
    optionalSize := by decide +kernel
    magic := by decide +kernel
    directories := by decide +kernel
    directories_le := by decide
    entry := by decide +kernel
    cliAddress_ne := by decide
    sections := by decide +kernel
    apart := by
      simp [plan, sections, SectionHeader.extent, SectionHeader.reach, Set.Ico_disjoint_Ico]
    inside := by decide +kernel
    cliStored := ⟨⟨72, 0x2000, 72, 0x1c0⟩, by decide, by decide, by decide, by decide⟩
    cliLength := by decide +kernel
    cliFields := by decide +kernel
    metadataStored := ⟨⟨12, 0x4000, 16, 0x208⟩, by decide, by decide, by decide, by decide⟩
    signature := by decide +kernel }
  exact ⟨hfits, locate_eq_of_fits plan bytes hfits⟩

end Blueprint

end Locate

end MetaParity
