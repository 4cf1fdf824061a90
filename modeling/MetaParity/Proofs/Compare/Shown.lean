import MetaParity.Compare
import MetaParity.Proofs.Digits

/-! # What is shown tells items apart

Tokens and copied signatures are shown alike only if they are equal, records only if their lengths are. No item is shown
as the end of a listing is. -/

namespace MetaParity

/-! ## Items -/

theorem Token.toList_text (token : Token) : token.text.toList = '0' :: 'x' :: Hex.digits 8 token.raw.toNat := by
  simp [Token.text, Hex.fixed]

theorem Token.text_injective {b c : Token} (h : b.text = c.text) : b = c := by
  rw [← String.toList_inj, toList_text, toList_text] at h
  simp only [List.cons.injEq, true_and] at h
  have hraw := Hex.digits_injective (UInt32.toNat_lt b.raw) (UInt32.toNat_lt c.raw) h
  rcases b with ⟨b⟩
  rcases c with ⟨c⟩
  exact congrArg Token.mk (UInt32.toNat_inj.mp hraw)

theorem SignatureRecord.toList_text (record : SignatureRecord) :
    record.text.toList = "len=".toList ++ (Nat.repr record.length).toList :=
  String.toList_append

theorem SignatureRecord.length_eq_of_text {b c : SignatureRecord} (h : b.text = c.text) : b.length = c.length := by
  rw [← String.toList_inj, toList_text, toList_text] at h
  exact Decimal.repr_injective (List.append_cancel_left h)

theorem SignatureBlob.toList_text (blob : SignatureBlob) :
    blob.text.toList =
      blob.token.text.toList ++ ':' :: blob.bytes.flatMap fun byte => ' ' :: Hex.digits 2 byte.toNat := by
  simp [SignatureBlob.text]

theorem spaced_injective {b c : List UInt8}
    (h : b.flatMap (fun byte => ' ' :: Hex.digits 2 byte.toNat) =
      c.flatMap fun byte => ' ' :: Hex.digits 2 byte.toNat) : b = c := by
  induction b generalizing c with
  | nil =>
      cases c with
      | nil => rfl
      | cons => cases h
  | cons byte b ih =>
      cases c with
      | nil => cases h
      | cons byte' c =>
          simp only [List.flatMap_cons] at h
          obtain ⟨hbyte, hrest⟩ := List.append_inj h (by simp)
          have hdigits := (List.cons.inj hbyte).2
          have hnat := Hex.digits_injective (UInt8.toNat_lt byte) (UInt8.toNat_lt byte') hdigits
          rw [UInt8.toNat_inj.mp hnat, ih hrest]

theorem SignatureBlob.text_injective {b c : SignatureBlob} (h : b.text = c.text) : b = c := by
  rw [← String.toList_inj, toList_text, toList_text] at h
  have hlength : b.token.text.toList.length = c.token.text.toList.length := by
    rw [Token.toList_text, Token.toList_text, List.length_cons, List.length_cons, List.length_cons, List.length_cons,
      Hex.length_digits, Hex.length_digits]
  obtain ⟨htoken, hbytes⟩ := List.append_inj h hlength
  rcases b with ⟨token, bytes⟩
  rcases c with ⟨token', bytes'⟩
  obtain rfl : token = token' := Token.text_injective (String.toList_inj.mp htoken)
  obtain rfl : bytes = bytes' := spaced_injective (List.cons.inj hbytes).2
  rfl

/-! ## Both sides of a divergence -/

/-- Items are shown alike only if they count as equal, and none as the end of a listing is. -/
class Listed.Telling (α : Type) [Listed α] : Prop where
  same_of_text {b c : α} : Listed.text b = Listed.text c → Listed.same b c = true
  text_ne_end (item : α) : Listed.text item ≠ "<end>"

theorem ne_end_of_toList {text : String} {c : Char} {rest : List Char} (h : text.toList = c :: rest) (hc : c ≠ '<') :
    text ≠ "<end>" := by
  rintro rfl
  exact hc (List.cons.inj h).1.symm

instance : Listed.Telling Token where
  same_of_text h := beq_iff_eq.mpr (Token.text_injective h)
  text_ne_end token := ne_end_of_toList token.toList_text (by decide)

instance : Listed.Telling SignatureRecord where
  same_of_text h := beq_iff_eq.mpr (SignatureRecord.length_eq_of_text h)
  text_ne_end record := ne_end_of_toList record.toList_text (by decide)

instance : Listed.Telling SignatureBlob where
  same_of_text h := beq_iff_eq.mpr (SignatureBlob.text_injective h)
  text_ne_end blob := by
    have htext := blob.toList_text
    rw [Token.toList_text, List.cons_append] at htext
    exact ne_end_of_toList htext (by decide)

end MetaParity
