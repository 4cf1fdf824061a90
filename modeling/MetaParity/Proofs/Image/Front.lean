import MetaParity.Proofs.Image.Blueprint
import MetaParity.Proofs.Image.Locate

/-! # Metadata in the front of a file

What is read of the front of a file is read of the whole file as well. Bytes behind it can only supply what was found to
be missing, so they change neither the place of metadata that was located in an executable nor a refusal for something
that was read. -/

namespace MetaParity

/-- Whether bytes are refused for something that stands in them, so that no further bytes do away with it. -/
def Malformed.isFinal : Malformed → Bool
  | optionalHeader _ | noCliHeader | unmappedAddress _ => true
  | unknownFormat | truncated _ | badSignature => false

theorem Bytes.HoldsAt.of_front {bytes bytes' content : Bytes} {offset : Nat} (h : bytes.HoldsAt offset content)
    (hfront : bytes <+: bytes') : bytes'.HoldsAt offset content :=
  h.trans (hfront.drop offset)

namespace Locate

variable {α β : Type} {answer answer' : Except Malformed α} {bytes bytes' : Bytes}

/-! ## Answers that are kept -/

/-- What is answered for a front and for the whole: the same, unless the front was refused for a reason that is not
final. -/
inductive Keeps : Except Malformed α → Except Malformed α → Prop where
  | same (answer : Except Malformed α) : Keeps answer answer
  | lifted {reason : Malformed} (answer : Except Malformed α) : reason.isFinal = false → Keeps (.error reason) answer

namespace Keeps

theorem eq_ok (h : Keeps answer answer') {a : α} (hanswer : answer = .ok a) : answer' = .ok a := by
  cases h with
  | same => exact hanswer
  | lifted => cases hanswer

theorem eq_error (h : Keeps answer answer') {reason : Malformed} (hfinal : reason.isFinal)
    (hanswer : answer = .error reason) : answer' = .error reason := by
  cases h with
  | same => exact hanswer
  | lifted _ hreason =>
      obtain rfl := Except.error.inj hanswer
      exact absurd hfinal (ne_true_of_eq_false hreason)

theorem bind {f f' : α → Except Malformed β} (h : Keeps answer answer') (hf : ∀ a, Keeps (f a) (f' a)) :
    Keeps (answer >>= f) (answer' >>= f') := by
  cases h with
  | same =>
      cases answer with
      | error reason => exact .same _
      | ok a => exact hf a
  | lifted _ hreason => exact .lifted _ hreason

theorem map (f : α → β) (h : Keeps answer answer') : Keeps (answer.map f) (answer'.map f) := by
  cases h with
  | same => exact .same _
  | lifted _ hreason => exact .lifted _ hreason

theorem ite {c : Prop} [Decidable c] {other other' : Except Malformed α} (h : Keeps answer answer')
    (hother : Keeps other other') : Keeps (if c then answer else other) (if c then answer' else other') := by
  split
  · exact h
  · exact hother

/-- A check that may refuse a front and let the whole pass, but not the other way round. -/
theorem check {c c' : Prop} [Decidable c] [Decidable c'] {reason : Malformed} {f f' : PUnit → Except Malformed α}
    (hreason : reason.isFinal = false) (hc : ¬c → ¬c') (h : Keeps answer answer') :
    Keeps (if c then throw reason >>= f else answer) (if c' then throw reason >>= f' else answer') := by
  by_cases hrefused : c
  · rw [if_pos hrefused]
    exact .lifted _ hreason
  · rw [if_neg hrefused, if_neg (hc hrefused)]
    exact h

end Keeps

/-! ## Reading -/

theorem word?_of_front (h : bytes <+: bytes') {offset : Nat} {word : UInt16} (hword : word? bytes offset = some word) :
    word? bytes' offset = some word :=
  word?_eq_some_iff.mpr ((word?_eq_some_iff.mp hword).of_front h)

theorem double?_of_front (h : bytes <+: bytes') {offset : Nat} {double : UInt32}
    (hdouble : double? bytes offset = some double) : double? bytes' offset = some double :=
  double?_eq_some_iff.mpr ((double?_eq_some_iff.mp hdouble).of_front h)

theorem SectionHeader.read?_of_front (h : bytes <+: bytes') {header : SectionHeader}
    (hheader : read? bytes = some header) : read? bytes' = some header :=
  read?_eq_some_iff.mpr ((read?_eq_some_iff.mp hheader).of_front h)

theorem keeps_required (part : String) {word word' : Option α} (h : ∀ value, word = some value → word' = some value) :
    Keeps (required part word) (required part word') := by
  cases word with
  | none => exact .lifted _ rfl
  | some value =>
      rw [h value rfl]
      exact .same _

theorem keeps_word (h : bytes <+: bytes') (part : String) (offset : Nat) :
    Keeps (required part (word? bytes offset)) (required part (word? bytes' offset)) :=
  keeps_required part fun _ => word?_of_front h

theorem keeps_double (h : bytes <+: bytes') (part : String) (offset : Nat) :
    Keeps (required part (double? bytes offset)) (required part (double? bytes' offset)) :=
  keeps_required part fun _ => double?_of_front h

/-! ## Headers and sections -/

/-- The first section that covers an address is the same, since all headers before it were read. -/
theorem keeps_offsetOf (address : UInt32) (count : Nat) {table table' : Bytes} (h : table <+: table') :
    Keeps (offsetOf address count table) (offsetOf address count table') := by
  induction count generalizing table table' with
  | zero => exact .same _
  | succ count ih =>
      rw [offsetOf, offsetOf]
      refine (keeps_required _ fun _ => SectionHeader.read?_of_front h).bind fun header => ?_
      exact (Keeps.same _).ite (ih (h.drop sectionHeaderSize))

theorem keeps_layoutOffsetOf (h : bytes <+: bytes') (layout : Layout) (address : UInt32) :
    Keeps (layout.offsetOf bytes address) (layout.offsetOf bytes' address) :=
  keeps_offsetOf address layout.sectionCount (h.drop layout.sectionTable)

theorem keeps_read (h : bytes <+: bytes') : Keeps (Layout.read bytes) (Layout.read bytes') := by
  unfold Layout.read
  refine (keeps_double h _ _).bind fun start => .check rfl (fun hmagic => ?_) ?_
  · have hholds : bytes.HoldsAt start.toNat headerMagic :=
      List.prefix_iff_eq_take.mpr (not_not.mp hmagic).symm
    exact not_not.mpr (hholds.of_front h).take_drop_eq
  · refine (keeps_word h _ _).bind fun sectionCount => (keeps_word h _ _).bind fun optionalSize =>
      (keeps_word h _ _).bind fun magic => (Keeps.same _).bind fun offsets => ?_
    refine (keeps_double h _ _).bind fun directories => (Keeps.same _).ite ?_
    exact (keeps_double h _ _).bind fun cliAddress => .same _

/-! ## The blob -/

theorem keeps_inExecutable (h : bytes <+: bytes') : Keeps (inExecutable bytes) (inExecutable bytes') := by
  unfold inExecutable
  refine (keeps_read h).bind fun layout => (keeps_layoutOffsetOf h layout _).bind fun header =>
    (keeps_double h _ _).bind fun address => (keeps_double h _ _).bind fun size =>
      (keeps_layoutOffsetOf h layout address).bind fun start => ?_
  refine .check rfl (fun hfits => ?_) ?_
  · have hlength := h.length_le
    omega
  · refine .check rfl (fun hsignature => ?_) (.same _)
    exact not_not.mpr (double?_of_front h (not_not.mp hsignature))

end Locate

open Locate

theorem not_executableMagic_of_signature {bytes : Bytes} (h : bytes.HoldsAt 0 signatureLetters) :
    ¬bytes.HoldsAt 0 executableMagic := by
  intro hmagic
  have hmarks := List.prefix_of_prefix_length_le hmagic h (by decide)
  revert hmarks
  decide

theorem keeps_locate {bytes bytes' : Bytes} (h : bytes <+: bytes') (hraw : ¬bytes.HoldsAt 0 signatureLetters) :
    Keeps (locate bytes) (locate bytes') := by
  rw [← double?_eq_signature_iff] at hraw
  unfold locate
  rw [if_neg hraw]
  by_cases hmagic : bytes.take 2 = executableMagic
  · have hfront : bytes.HoldsAt 0 executableMagic := List.prefix_iff_eq_take.mpr hmagic.symm
    have hwhole : bytes'.take 2 = executableMagic := (hfront.of_front h).take_drop_eq
    have hraw' : double? bytes' 0 ≠ some signature := fun hsignature =>
      not_executableMagic_of_signature (double?_eq_signature_iff.mp hsignature) (hfront.of_front h)
    rw [if_pos hmagic, if_neg hraw', if_pos hwhole]
    exact (keeps_inExecutable h).map _
  · rw [if_neg hmagic]
    exact .lifted _ rfl

/-- Whatever is appended to an executable, located metadata stays where it is and a final refusal stays. So the front of
an executable is never accepted with another range than the whole. -/
theorem locate_append (bytes more : Bytes) :
    (∀ extent, locate bytes = .ok (.executable, extent) → locate (bytes ++ more) = .ok (.executable, extent)) ∧
    (∀ reason : Malformed, reason.isFinal → locate bytes = .error reason → locate (bytes ++ more) = .error reason) ∧
    (∀ extent, locate bytes = .ok (.raw, extent) →
      extent = ⟨0, bytes.length⟩ ∧ locate (bytes ++ more) = .ok (.raw, ⟨0, (bytes ++ more).length⟩)) ∧
    ∀ extent, locate (bytes ++ more) = .ok (.executable, extent) →
      ∀ kind found, locate bytes = .ok (kind, found) → kind = .executable ∧ found = extent := by
  have hmore : bytes <+: bytes ++ more := List.prefix_append bytes more
  have hexecutable : ∀ extent, locate bytes = .ok (.executable, extent) →
      locate (bytes ++ more) = .ok (.executable, extent) := by
    intro extent hlocate
    rcases locate_eq_ok_iff.mp hlocate with ⟨-, hkind, -⟩ | ⟨hraw, -⟩
    · cases hkind
    · exact (keeps_locate hmore hraw).eq_ok hlocate
  have hraw : ∀ extent, locate bytes = .ok (.raw, extent) →
      extent = ⟨0, bytes.length⟩ ∧ locate (bytes ++ more) = .ok (.raw, ⟨0, (bytes ++ more).length⟩) := by
    intro extent hlocate
    rcases locate_eq_ok_iff.mp hlocate with ⟨hsignature, -, hextent⟩ | ⟨-, -, hkind, -⟩
    · exact ⟨hextent, locate_eq_ok_iff.mpr (.inl ⟨hsignature.of_front hmore, rfl, rfl⟩)⟩
    · cases hkind
  refine ⟨hexecutable, fun reason hfinal hlocate => ?_, hraw, fun extent hwhole kind found hfront => ?_⟩
  · have hsignature : ¬bytes.HoldsAt 0 signatureLetters := by
      intro hsignature
      rw [locate_eq_ok_iff.mpr (.inl ⟨hsignature, rfl, rfl⟩)] at hlocate
      cases hlocate
    exact (keeps_locate hmore hsignature).eq_error hfinal hlocate
  · cases kind with
    | raw =>
        rw [(hraw found hfront).2] at hwhole
        cases hwhole
    | executable =>
        rw [hexecutable found hfront] at hwhole
        cases hwhole
        exact ⟨rfl, rfl⟩

/-- An executable that is cut off behind its metadata, and one whose sections do not cover the address of its CLI
header. -/
theorem locate_append_cut :
    let front := Blueprint.assemble .narrow [⟨80, 0x2000, 80, 0x160⟩] 0x2000
      (Blueprint.cliBytes 0x2048 8 ++ signatureLetters ++ [1, 0, 1, 0])
    let unmapped := Blueprint.assemble .wide [⟨80, 0x2000, 80, 0x160⟩] 0x3000 []
    (locate front = .ok (.executable, ⟨0x1a8, 0x1b0⟩) ∧
      locate (front ++ [0, 0]) = .ok (.executable, ⟨0x1a8, 0x1b0⟩)) ∧
    (Malformed.unmappedAddress 0x3000).isFinal ∧ locate unmapped = .error (.unmappedAddress 0x3000) ∧
      locate (unmapped ++ signatureLetters) = .error (.unmappedAddress 0x3000) := by
  intro front unmapped
  have hfront : locate front = .ok (.executable, ⟨0x1a8, 0x1b0⟩) := by decide +kernel
  have hunmapped : locate unmapped = .error (.unmappedAddress 0x3000) := by decide +kernel
  obtain ⟨hexecutable, -⟩ := locate_append front [0, 0]
  obtain ⟨-, hfinal, -⟩ := locate_append unmapped signatureLetters
  exact ⟨⟨hfront, hexecutable _ hfront⟩, rfl, hunmapped, hfinal _ rfl hunmapped⟩

end MetaParity
