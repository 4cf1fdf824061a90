import MetaParity.Proofs.Image.Blueprint

/-! # The signature of located metadata

Metadata is located where its signature stands. How much of the bytes there it takes up is said elsewhere: by the end of
the file, or by the CLI header of an executable. -/

namespace MetaParity

open Locate

/-- Metadata that is a whole file is four bytes long at least; that of an executable starts with the signature exactly
when its declared size is four bytes or more. -/
theorem Image.metadata_signature_iff {path : String} {bytes : Bytes} {image : Image}
    (h : Image.ofBytes path bytes = .ok image) :
    bytes.HoldsAt image.extent.start signatureLetters ∧
    image.metadata <+: bytes.drop image.extent.start ∧
    (signatureLetters <+: image.metadata ↔ 4 ≤ image.metadata.length) ∧
    (image.kind = .raw → 4 ≤ image.metadata.length) ∧
    (image.kind = .executable → ∃ (layout : Layout) (header : Nat) (size : UInt32),
      Layout.read bytes = .ok layout ∧ layout.offsetOf bytes layout.cliAddress = .ok header ∧
      double? bytes (header + 12) = some size ∧ image.metadata.length = size.toNat) := by
  obtain ⟨-, rfl, hlocate⟩ := Image.ofBytes_eq_ok_iff.mp h
  rcases locate_eq_ok_iff.mp hlocate with ⟨hraw, hkind, hextent⟩ | ⟨-, -, hkind, hextent⟩
  · have hstands : image.bytes.HoldsAt image.extent.start signatureLetters := hextent ▸ hraw
    have hlength : image.metadata.length = image.bytes.length := by
      simp [Image.metadata, Extent.of, Extent.length, hextent]
    have hfits : 4 ≤ image.metadata.length := hlength ▸ hraw.add_length_le (List.cons_ne_nil _ _)
    rw [hkind]
    exact ⟨hstands, List.take_prefix _ _, Extent.prefix_of_iff hstands, fun _ => hfits, fun h => (by cases h)⟩
  · obtain ⟨layout, header, _, size, hlayout, hheader, -, hsize, -, hstop, hend, hsignature⟩ :=
      inExecutable_eq_ok_iff.mp hextent
    have hstands := double?_eq_signature_iff.mp hsignature
    have hlength : image.metadata.length = size.toNat := by
      rw [Image.metadata, Extent.length_of hend, Extent.length, hstop, Nat.add_sub_cancel_left]
    rw [hkind]
    exact ⟨hstands, List.take_prefix _ _, Extent.prefix_of_iff hstands, fun h => (by cases h),
      fun _ => ⟨layout, header, size, hlayout, hheader, hsize, hlength⟩⟩

/-- An executable whose one section holds the CLI header, with metadata declared to be of this size, and the signature. -/
def Locate.Blueprint.declaring (size : Nat) : Bytes :=
  assemble .narrow [⟨76, 0x2000, 76, 0x160⟩] 0x2000 (cliBytes 0x2048 size ++ signatureLetters)

theorem Image.metadata_signature_declared :
    let image : Image := ⟨"cut.dll", .executable, Blueprint.declaring 2, ⟨0x1a8, 0x1aa⟩⟩
    Image.ofBytes "cut.dll" image.bytes = .ok image ∧ image.metadata <+: signatureLetters ∧
      (signatureLetters <+: image.metadata ↔ 4 ≤ image.metadata.length) := by
  intro image
  have himage : Image.ofBytes "cut.dll" image.bytes = .ok image := by decide +kernel
  obtain ⟨-, -, hprefix, -, -⟩ := Image.metadata_signature_iff himage
  exact ⟨himage, by decide +kernel, hprefix⟩

/-- Two bytes are declared to be metadata, and metadata of two bytes is located. -/
theorem Image.metadata_below_signature :
    ∃ image, Image.ofBytes "cut.dll" (Blueprint.declaring 2) = .ok image ∧ image.metadata = [0x42, 0x53] ∧
      ¬(4 ≤ image.metadata.length ∧ signatureLetters <+: image.metadata) := by
  refine ⟨⟨"cut.dll", .executable, Blueprint.declaring 2, ⟨0x1a8, 0x1aa⟩⟩, ?_, ?_, ?_⟩
  · decide +kernel
  · decide +kernel
  · decide +kernel

end MetaParity
