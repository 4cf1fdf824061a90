import MetaParity.Proofs.Image.Soundness

/-! # Where the metadata of an executable is stored

A section covers as many addresses as the larger of its sizes says, also where no raw data is behind them, and a range is
only asked to end within the bytes. So metadata may be located outside the raw data of its section: in the part that is
zero in memory, or running on behind the raw data. -/

namespace MetaParity

namespace Locate

namespace Layout.MapsBy

variable {layout : Layout} {bytes : Bytes} {holder : SectionHeader} {address : UInt32} {extent : Extent}

/-- An address is past the raw data of its section exactly when it is in the part that memory alone has. -/
theorem rawEnd_le_iff (h : layout.MapsBy bytes holder address extent.start) :
    holder.rawPointer.toNat + holder.rawSize.toNat ≤ extent.start ↔
      holder.virtualAddress.toNat + holder.rawSize.toNat ≤ address.toNat ∧
        address.toNat < holder.virtualAddress.toNat + holder.virtualSize.toNat := by
  obtain ⟨hle, hlt⟩ := h.mem_extent
  have hstart := h.offset_eq
  unfold SectionHeader.reach at hlt
  omega

theorem stores_iff (h : layout.MapsBy bytes holder address extent.start) {size : Nat}
    (hstop : extent.stop = extent.start + size) :
    holder.Stores address extent ↔
      address.toNat - holder.virtualAddress.toNat + size ≤ holder.rawSize.toNat := by
  have hstart := h.offset_eq
  have hle := h.mem_extent.1
  constructor
  · intro hstores
    have hend := hstores.stop_le
    omega
  · intro hfits
    exact ⟨by omega, by omega, by omega⟩

end Layout.MapsBy

end Locate

open Locate

/-- Located metadata lies in the raw data of its section exactly when that reaches far enough, and starts past the raw
data exactly when its address is in the part that memory alone has. -/
theorem stored_iff_of_locate {bytes : Bytes} {extent : Extent} (h : locate bytes = .ok (.executable, extent)) :
    ∃ (layout : Layout) (address size : UInt32) (holder : SectionHeader), layout.Names bytes address size ∧
      layout.MapsBy bytes holder address extent.start ∧ extent.stop = extent.start + size.toNat ∧
      extent.stop ≤ bytes.length ∧
      (holder.Stores address extent ↔
        address.toNat - holder.virtualAddress.toNat + size.toNat ≤ holder.rawSize.toNat) ∧
      (holder.rawPointer.toNat + holder.rawSize.toNat ≤ extent.start ↔
        holder.virtualAddress.toNat + holder.rawSize.toNat ≤ address.toNat ∧
          address.toNat < holder.virtualAddress.toNat + holder.virtualSize.toNat) := by
  obtain ⟨layout, address, size, holder, hnames, hmaps, hstop, hinside, -⟩ :=
    inExecutable_eq_ok_iff_mapsBy.mp (inExecutable_of_locate h)
  exact ⟨layout, address, size, holder, hnames, hmaps, hstop, hinside, hmaps.stores_iff hstop, hmaps.rawEnd_le_iff⟩

theorem stored_iff_of_locate_declared :
    let bytes := Blueprint.assemble .narrow [⟨80, 0x2000, 80, 0x160⟩] 0x2000
      (Blueprint.cliBytes 0x2048 8 ++ signatureLetters ++ [1, 0, 1, 0])
    locate bytes = .ok (.executable, ⟨0x1a8, 0x1b0⟩) ∧
      ∃ (layout : Layout) (address size : UInt32) (holder : SectionHeader), layout.Names bytes address size ∧
        layout.MapsBy bytes holder address 0x1a8 ∧
        (holder.Stores address ⟨0x1a8, 0x1b0⟩ ↔
          address.toNat - holder.virtualAddress.toNat + size.toNat ≤ holder.rawSize.toNat) := by
  intro bytes
  have hlocate : locate bytes = .ok (.executable, ⟨0x1a8, 0x1b0⟩) := by decide +kernel
  obtain ⟨layout, address, size, holder, hnames, hmaps, -, -, hstores, -⟩ := stored_iff_of_locate hlocate
  exact ⟨hlocate, layout, address, size, holder, hnames, hmaps, hstores⟩

namespace Locate

theorem Layout.MapsBy.of_first {layout : Layout} {bytes : Bytes} {holder : SectionHeader} {address : UInt32}
    {offset : Nat} (hcount : 0 < layout.sectionCount) (hholder : layout.header? bytes 0 = some holder)
    (hcovers : holder.covers address) (hoffset : holder.offset address = offset) (hfits : offset < 0x100000000) :
    layout.MapsBy bytes holder address offset where
  first := ⟨0, hcount, hholder, fun _ hbefore => absurd hbefore (Nat.not_lt_zero _)⟩
  mem_extent := SectionHeader.covers_iff.mp hcovers
  offset_eq := hoffset ▸ Nat.add_comm _ _
  offset_lt := hfits

namespace Blueprint

/-- An executable whose one section goes on in memory behind its raw data, with metadata at an address there. -/
def inMemoryOnly : Bytes :=
  assemble .narrow [⟨0x1000, 0x2000, 72, 0x160⟩] 0x2000 (cliBytes 0x2048 8 ++ signatureLetters ++ [1, 0, 1, 0])

/-- An executable whose metadata is longer than the rest of its section, and runs on into the next. -/
def runningOn : Bytes :=
  assemble .narrow [⟨76, 0x2000, 76, 0x188⟩, ⟨4, 0x3000, 4, 0x1d4⟩] 0x2000
    (cliBytes 0x2048 8 ++ signatureLetters ++ [1, 0, 1, 0])

end Blueprint

end Locate

/-- Metadata located behind the raw data of its section, and metadata of which its section stores only the first half.
-/
theorem locate_outside_raw_data :
    (∃ (layout : Layout) (holder : SectionHeader), layout.Names Blueprint.inMemoryOnly 0x2048 8 ∧
      layout.MapsBy Blueprint.inMemoryOnly holder 0x2048 0x1a8 ∧
      locate Blueprint.inMemoryOnly = .ok (.executable, ⟨0x1a8, 0x1b0⟩) ∧
      ¬(holder.rawPointer.toNat ≤ 0x1a8 ∧ 0x1b0 ≤ holder.rawPointer.toNat + holder.rawSize.toNat) ∧
      holder.rawPointer.toNat + holder.rawSize.toNat ≤ 0x1a8) ∧
    (∃ (layout : Layout) (holder next : SectionHeader), layout.Names Blueprint.runningOn 0x2048 8 ∧
      layout.MapsBy Blueprint.runningOn holder 0x2048 0x1d0 ∧
      locate Blueprint.runningOn = .ok (.executable, ⟨0x1d0, 0x1d8⟩) ∧
      ¬(holder.rawPointer.toNat ≤ 0x1d0 ∧ 0x1d8 ≤ holder.rawPointer.toNat + holder.rawSize.toNat) ∧
      layout.header? Blueprint.runningOn 1 = some next ∧ next.rawPointer.toNat < 0x1d8) := by
  constructor
  · let layout : Layout := ⟨1, 0x138, 0x2000⟩
    let holder : SectionHeader := ⟨0x1000, 0x2000, 72, 0x160⟩
    have hholder : layout.header? Blueprint.inMemoryOnly 0 = some holder := by decide +kernel
    refine ⟨layout, holder, ⟨by decide +kernel, holder, 0x160, ?_, by decide +kernel, by decide +kernel⟩, ?_,
      by decide +kernel, by decide, by decide⟩
    · exact .of_first (by decide) hholder (by decide) (by decide) (by decide)
    · exact .of_first (by decide) hholder (by decide) (by decide) (by decide)
  · let layout : Layout := ⟨2, 0x138, 0x2000⟩
    let holder : SectionHeader := ⟨76, 0x2000, 76, 0x188⟩
    have hholder : layout.header? Blueprint.runningOn 0 = some holder := by decide +kernel
    refine ⟨layout, holder, ⟨4, 0x3000, 4, 0x1d4⟩,
      ⟨by decide +kernel, holder, 0x188, ?_, by decide +kernel, by decide +kernel⟩, ?_, by decide +kernel, by decide,
      by decide +kernel, by decide⟩
    · exact .of_first (by decide) hholder (by decide) (by decide) (by decide)
    · exact .of_first (by decide) hholder (by decide) (by decide) (by decide)

end MetaParity
