import MetaParity.Proofs.Image.Blueprint
import MetaParity.Proofs.Image.Machine

/-! # What located metadata is

A located range begins with the signature. In an executable its place is found in two steps, and each of them maps an
address by the first section that covers it. -/

namespace MetaParity

namespace Locate

namespace Layout

variable {layout : Layout} {bytes : Bytes} {address : UInt32} {offset : Nat}

def header? (layout : Layout) (bytes : Bytes) (position : Nat) : Option SectionHeader :=
  headerAt? (bytes.drop layout.sectionTable) position

/-- The address is mapped to the offset by a section: the first one in the table among whose addresses it is. -/
structure MapsBy (layout : Layout) (bytes : Bytes) (header : SectionHeader) (address : UInt32) (offset : Nat) : Prop where
  first : ∃ position < layout.sectionCount, layout.header? bytes position = some header ∧
    ∀ before < position, ∃ other, layout.header? bytes before = some other ∧ address.toNat ∉ other.extent
  mem_extent : address.toNat ∈ header.extent
  offset_eq : offset = header.rawPointer.toNat + (address.toNat - header.virtualAddress.toNat)
  offset_lt : offset < 0x100000000

theorem offsetOf_eq_ok_iff_mapsBy :
    layout.offsetOf bytes address = .ok offset ↔ ∃ header, layout.MapsBy bytes header address offset := by
  rw [Layout.offsetOf, offsetOf_eq_ok_iff]
  simp only [← Bool.not_eq_true, SectionHeader.covers_iff]
  constructor
  · rintro ⟨position, header, hposition, hheader, hcovers, rfl, hfits, hbefore⟩
    exact ⟨header, ⟨position, hposition, hheader, hbefore⟩, hcovers, Nat.add_comm _ _, hfits⟩
  · rintro ⟨header, ⟨position, hposition, hheader, hbefore⟩, hcovers, rfl, hfits⟩
    exact ⟨position, header, hposition, hheader, hcovers, Nat.add_comm _ _, hfits, hbefore⟩

theorem MapsBy.unique {header other : SectionHeader} {offset' : Nat} (h : layout.MapsBy bytes header address offset)
    (h' : layout.MapsBy bytes other address offset') : header = other ∧ offset = offset' := by
  obtain ⟨position, -, hheader, hbefore⟩ := h.first
  obtain ⟨position', -, hother, hbefore'⟩ := h'.first
  have hsame : header = other := by
    rcases lt_trichotomy position position' with hlt | rfl | hgt
    · obtain ⟨earlier, hearlier, hmem⟩ := hbefore' position hlt
      rw [Option.some.inj (hearlier.symm.trans hheader)] at hmem
      exact absurd h.mem_extent hmem
    · exact Option.some.inj (hheader.symm.trans hother)
    · obtain ⟨earlier, hearlier, hmem⟩ := hbefore position' hgt
      rw [Option.some.inj (hearlier.symm.trans hother)] at hmem
      exact absurd h'.mem_extent hmem
  subst hsame
  exact ⟨rfl, h.offset_eq.trans h'.offset_eq.symm⟩

/-- The headers of an executable name an address and a size for its metadata: they stand in the CLI header, whose own
address a section maps. -/
structure Names (layout : Layout) (bytes : Bytes) (address size : UInt32) : Prop where
  read : Layout.read bytes = .ok layout
  cli : ∃ holder place, layout.MapsBy bytes holder layout.cliAddress place ∧
    double? bytes (place + 8) = some address ∧ double? bytes (place + 12) = some size

end Layout

theorem inExecutable_eq_ok_iff_mapsBy {bytes : Bytes} {extent : Extent} :
    inExecutable bytes = .ok extent ↔
      ∃ (layout : Layout) (address size : UInt32) (holder : SectionHeader), layout.Names bytes address size ∧
        layout.MapsBy bytes holder address extent.start ∧ extent.stop = extent.start + size.toNat ∧
        extent.stop ≤ bytes.length ∧ bytes.HoldsAt extent.start signatureLetters := by
  simp only [inExecutable_eq_ok_iff, Layout.offsetOf_eq_ok_iff_mapsBy, double?_eq_signature_iff]
  constructor
  · rintro ⟨layout, place, address, size, hread, ⟨cliHolder, hcli⟩, haddress, hsize, ⟨holder, hmaps⟩, hrest⟩
    exact ⟨layout, address, size, holder, ⟨hread, cliHolder, place, hcli, haddress, hsize⟩, hmaps, hrest⟩
  · rintro ⟨layout, address, size, holder, ⟨hread, cliHolder, place, hcli, haddress, hsize⟩, hmaps, hrest⟩
    exact ⟨layout, place, address, size, hread, ⟨cliHolder, hcli⟩, haddress, hsize, ⟨holder, hmaps⟩, hrest⟩

end Locate

open Locate

theorem locate_eq_ok_raw_iff {bytes : Bytes} {extent : Extent} :
    locate bytes = .ok (.raw, extent) ↔ bytes.HoldsAt 0 signatureLetters ∧ extent = ⟨0, bytes.length⟩ := by
  simp [locate_eq_ok_iff]

theorem inExecutable_of_locate {bytes : Bytes} {extent : Extent} (h : locate bytes = .ok (.executable, extent)) :
    inExecutable bytes = .ok extent := by
  rcases locate_eq_ok_iff.mp h with ⟨-, hkind, -⟩ | ⟨-, -, -, hextent⟩
  · cases hkind
  · exact hextent

/-- Located metadata lies within the bytes, begins with the signature and is as long as the CLI header says, at the
place where the first section that covers its address puts it. No step faults. -/
theorem locate_sound (bytes : Bytes) (hbytes : bytes.length < 0x10000000000000000) :
    (∃ result, (Machine.locate bytes).run = .ok result ∧
      Alike (fun found expected => found.1 = expected.1 ∧ Machine.Spans found.2 expected.2) result (locate bytes)) ∧
    (∀ extent, locate bytes = .ok (.raw, extent) →
      bytes.HoldsAt 0 signatureLetters ∧ extent = ⟨0, bytes.length⟩) ∧
    (∀ extent, locate bytes = .ok (.executable, extent) →
      extent.start ≤ extent.stop ∧ extent.stop ≤ bytes.length ∧ bytes.HoldsAt extent.start signatureLetters ∧
      ∃ (layout : Layout) (address size : UInt32) (holder : SectionHeader), layout.Names bytes address size ∧
        layout.MapsBy bytes holder address extent.start ∧ extent.stop - extent.start = size.toNat) := by
  refine ⟨Machine.carries_locate hbytes, fun extent hraw => locate_eq_ok_raw_iff.mp hraw, fun extent hexecutable => ?_⟩
  obtain ⟨layout, address, size, holder, hnames, hmaps, hstop, hinside, hsignature⟩ :=
    inExecutable_eq_ok_iff_mapsBy.mp (inExecutable_of_locate hexecutable)
  have horder : extent.start ≤ extent.stop := hstop ▸ Nat.le_add_right _ _
  have hlength : extent.stop - extent.start = size.toNat := by rw [hstop, Nat.add_sub_cancel_left]
  exact ⟨horder, hinside, hsignature, layout, address, size, holder, hnames, hmaps, hlength⟩

theorem locate_sound_declared :
    let bytes := Blueprint.assemble .narrow [⟨80, 0x2000, 80, 0x160⟩] 0x2000
      (Blueprint.cliBytes 0x2048 8 ++ signatureLetters ++ [1, 0, 1, 0])
    bytes.length < 0x10000000000000000 ∧ (Machine.locate bytes).run = .ok (.ok (.executable, 0x1a8, 0x1b0)) ∧
      locate bytes = .ok (.executable, ⟨0x1a8, 0x1b0⟩) ∧ bytes.HoldsAt 0x1a8 signatureLetters := by
  intro bytes
  have hbytes : bytes.length < 0x10000000000000000 := by decide +kernel
  have hlocate : locate bytes = .ok (.executable, ⟨0x1a8, 0x1b0⟩) := by decide +kernel
  obtain ⟨-, -, hexecutable⟩ := locate_sound bytes hbytes
  obtain ⟨-, -, hsignature, -⟩ := hexecutable _ hlocate
  exact ⟨hbytes, by decide +kernel, hlocate, hsignature⟩

end MetaParity
