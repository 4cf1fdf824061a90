import MetaParity.Image
import MetaParity.Proofs.Except
import MetaParity.Proofs.Image.Words

/-! # Where metadata is located

What it takes for metadata to be found, step by step: the headers, the section that covers an address, the CLI header,
and the blob itself. -/

namespace MetaParity

namespace Locate

theorem required_eq_ok_iff {α : Type} {part : String} {word : Option α} {value : α} :
    required part word = .ok value ↔ word = some value := by
  cases word with
  | none => exact ⟨fun h => (by cases h), fun h => (by cases h)⟩
  | some other => exact ⟨fun h => congrArg some (Except.ok.inj h), fun h => congrArg Except.ok (Option.some.inj h)⟩

/-! ## Headers -/

theorem read_eq_ok_iff {bytes : Bytes} {layout : Layout} :
    Layout.read bytes = .ok layout ↔
      ∃ (start : UInt32) (sectionCount optionalSize magic : UInt16) (offsets : Nat × Nat) (directories : UInt32),
        double? bytes 0x3c = some start ∧ (bytes.drop start.toNat).take 4 = headerMagic ∧
        word? bytes (start.toNat + 6) = some sectionCount ∧ word? bytes (start.toNat + 20) = some optionalSize ∧
        word? bytes (start.toNat + 24) = some magic ∧ directoryOffsets magic = .ok offsets ∧
        double? bytes (start.toNat + 24 + offsets.1) = some directories ∧ cliDirectory < directories.toNat ∧
        double? bytes (start.toNat + 24 + offsets.2 + 8 * cliDirectory) = some layout.cliAddress ∧
        layout.cliAddress ≠ 0 ∧ layout.sectionCount = sectionCount.toNat ∧
        layout.sectionTable = start.toNat + 24 + optionalSize.toNat := by
  rcases layout with ⟨count, table, address⟩
  unfold Layout.read
  simp only [bind_eq_ok_iff, required_eq_ok_iff, ite_throw_eq_ok_iff, pure_eq_ok_iff, Layout.mk.injEq, not_not, not_le]
  constructor
  · rintro ⟨start, hstart, hheader, sectionCount, hcount, optionalSize, hsize, magic, hmagic, offsets, hoffsets,
      directories, hdirectories, hmany, _, hentry, hnonzero, rfl, rfl, rfl⟩
    exact ⟨start, sectionCount, optionalSize, magic, offsets, directories, hstart, hheader, hcount, hsize, hmagic,
      hoffsets, hdirectories, hmany, hentry, hnonzero, rfl, rfl⟩
  · rintro ⟨start, sectionCount, optionalSize, magic, offsets, directories, hstart, hheader, hcount, hsize, hmagic,
      hoffsets, hdirectories, hmany, hentry, hnonzero, rfl, rfl⟩
    exact ⟨start, hstart, hheader, sectionCount, hcount, optionalSize, hsize, magic, hmagic, offsets, hoffsets,
      directories, hdirectories, hmany, address, hentry, hnonzero, rfl, rfl, rfl⟩

/-! ## Sections -/

def headerAt? (table : Bytes) (position : Nat) : Option SectionHeader :=
  SectionHeader.read? (table.drop (sectionHeaderSize * position))

theorem headerAt?_drop (table : Bytes) (position : Nat) :
    headerAt? (table.drop sectionHeaderSize) position = headerAt? table (position + 1) := by
  rw [headerAt?, headerAt?, List.drop_drop, Nat.mul_succ, Nat.add_comm]

theorem offsetOf_eq_ok_iff {address : UInt32} {count : Nat} {table : Bytes} {offset : Nat} :
    offsetOf address count table = .ok offset ↔
      ∃ (position : Nat) (header : SectionHeader), position < count ∧ headerAt? table position = some header ∧
        header.covers address ∧ header.offset address = offset ∧ offset < 0x100000000 ∧
        ∀ before < position, ∃ other, headerAt? table before = some other ∧ other.covers address = false := by
  -- The table is cut as headers are passed over, so their positions shift by one.
  induction count generalizing table with
  | zero => simp [offsetOf]
  | succ count ih =>
    rw [offsetOf, bind_eq_ok_iff]
    simp only [required_eq_ok_iff]
    constructor
    · rintro ⟨first, hfirst, h⟩
      by_cases hcovers : first.covers address
      · rw [if_pos hcovers] at h
        split at h
        · next hfits =>
            obtain rfl := Except.ok.inj h
            exact ⟨0, first, Nat.succ_pos count, hfirst, hcovers, rfl, hfits, by simp⟩
        · cases h
      · rw [if_neg hcovers, ih] at h
        obtain ⟨position, header, hposition, hheader, hmaps, hoffset, hfits, hbefore⟩ := h
        rw [headerAt?_drop] at hheader
        refine ⟨position + 1, header, Nat.succ_lt_succ hposition, hheader, hmaps, hoffset, hfits, ?_⟩
        intro before hlt
        cases before with
        | zero => exact ⟨first, hfirst, eq_false_of_ne_true hcovers⟩
        | succ before =>
            rw [← headerAt?_drop]
            exact hbefore before (Nat.lt_of_succ_lt_succ hlt)
    · rintro ⟨position, header, hposition, hheader, hmaps, hoffset, hfits, hbefore⟩
      cases position with
      | zero =>
          refine ⟨header, hheader, ?_⟩
          rw [if_pos hmaps, hoffset, if_pos hfits]
          rfl
      | succ position =>
          obtain ⟨first, hfirst, hcovers⟩ := hbefore 0 (Nat.succ_pos position)
          refine ⟨first, hfirst, ?_⟩
          rw [if_neg (ne_true_of_eq_false hcovers), ih]
          refine ⟨position, header, Nat.lt_of_succ_lt_succ hposition, ?_, hmaps, hoffset, hfits, ?_⟩
          · rwa [headerAt?_drop]
          · intro before hlt
            rw [headerAt?_drop]
            exact hbefore (before + 1) (Nat.succ_lt_succ hlt)

/-! ## The blob -/

theorem inExecutable_eq_ok_iff {bytes : Bytes} {extent : Extent} :
    inExecutable bytes = .ok extent ↔
      ∃ (layout : Layout) (header : Nat) (address size : UInt32),
        Layout.read bytes = .ok layout ∧ layout.offsetOf bytes layout.cliAddress = .ok header ∧
        double? bytes (header + 8) = some address ∧ double? bytes (header + 12) = some size ∧
        layout.offsetOf bytes address = .ok extent.start ∧ extent.stop = extent.start + size.toNat ∧
        extent.stop ≤ bytes.length ∧ double? bytes extent.start = some signature := by
  rcases extent with ⟨start, stop⟩
  unfold inExecutable
  simp only [bind_eq_ok_iff, required_eq_ok_iff, ite_throw_eq_ok_iff, pure_eq_ok_iff, Extent.mk.injEq, not_not, not_lt]
  constructor
  · rintro ⟨layout, hlayout, header, hheader, address, haddress, size, hsize, _, hstart, hstop, hsignature, rfl, rfl⟩
    exact ⟨layout, header, address, size, hlayout, hheader, haddress, hsize, hstart, rfl, hstop, hsignature⟩
  · rintro ⟨layout, header, address, size, hlayout, hheader, haddress, hsize, hstart, rfl, hstop, hsignature⟩
    exact ⟨layout, hlayout, header, hheader, address, haddress, size, hsize, start, hstart, hstop, hsignature, rfl, rfl⟩

def signatureLetters : Bytes :=
  [0x42, 0x53, 0x4a, 0x42]

theorem double?_eq_signature_iff {bytes : Bytes} {offset : Nat} :
    double? bytes offset = some signature ↔ bytes.HoldsAt offset signatureLetters :=
  double?_eq_some_iff

end Locate

open Locate

theorem locate_eq_ok_iff {bytes : Bytes} {kind : ImageKind} {extent : Extent} :
    locate bytes = .ok (kind, extent) ↔
      bytes.HoldsAt 0 signatureLetters ∧ kind = .raw ∧ extent = ⟨0, bytes.length⟩ ∨
      ¬bytes.HoldsAt 0 signatureLetters ∧ bytes.HoldsAt 0 executableMagic ∧ kind = .executable ∧
        inExecutable bytes = .ok extent := by
  have hmagic : bytes.take 2 = executableMagic ↔ bytes.HoldsAt 0 executableMagic := by
    rw [Bytes.HoldsAt, List.drop_zero, List.prefix_iff_eq_take, eq_comm]
    rfl
  unfold locate
  rw [← double?_eq_signature_iff, ← hmagic]
  by_cases hraw : double? bytes 0 = some signature
  · simp [hraw, eq_comm]
  · by_cases hexecutable : bytes.take 2 = executableMagic
    · cases inExecutable bytes <;> simp [hraw, hexecutable, Except.map, eq_comm]
    · simp [hraw, hexecutable]

/-! ## Images -/

theorem Image.ofBytes_eq_ok_iff {path : String} {bytes : Bytes} {image : Image} :
    Image.ofBytes path bytes = .ok image ↔
      image.path = path ∧ image.bytes = bytes ∧ locate bytes = .ok (image.kind, image.extent) := by
  rcases image with ⟨other, kind, held, extent⟩
  unfold Image.ofBytes
  cases locate bytes with
  | error reason => simp
  | ok found =>
    obtain ⟨kind', extent'⟩ := found
    simp only [Except.ok.injEq, Image.mk.injEq, Prod.mk.injEq]
    constructor
    · rintro ⟨rfl, rfl, rfl, rfl⟩
      exact ⟨rfl, rfl, rfl, rfl⟩
    · rintro ⟨rfl, rfl, rfl, rfl⟩
      exact ⟨rfl, rfl, rfl, rfl⟩

theorem Extent.prefix_of_iff {extent : Extent} {bytes content : Bytes} (h : bytes.HoldsAt extent.start content) :
    content <+: extent.of bytes ↔ content.length ≤ (extent.of bytes).length := by
  have hlength := h.length_le
  rw [Extent.of, List.prefix_take_iff, List.length_take]
  have hiff : content.length ≤ min extent.length (bytes.drop extent.start).length ↔ content.length ≤ extent.length := by
    omega
  rw [hiff]
  exact and_iff_right h

theorem Extent.length_of {extent : Extent} {bytes : Bytes} (h : extent.stop ≤ bytes.length) :
    (extent.of bytes).length = extent.length := by
  rw [Extent.of, List.length_take, List.length_drop, Extent.length]
  omega

end MetaParity
