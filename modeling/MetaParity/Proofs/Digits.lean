import MetaParity.Text.Basic
import Mathlib.Data.List.Basic

/-! # Numbers from their digits

Hexadecimal digits of a fixed count give the number back, and so do decimal ones. -/

namespace MetaParity

namespace Hex

theorem digit_injective {m n : Nat} (hm : m < 16) (hn : n < 16) (h : digit m = digit n) : m = n := by
  have htable : ∀ a b : Fin 16, digit a = digit b → a = b := by decide
  exact congrArg Fin.val (htable ⟨m, hm⟩ ⟨n, hn⟩ h)

@[simp] theorem length_digits (width n : Nat) : (digits width n).length = width := by
  induction width generalizing n with
  | zero => rfl
  | succ width ih => rw [digits, List.length_append, ih, List.length_singleton]

theorem digits_injective {width m n : Nat} (hm : m < Nat.pow 16 width) (hn : n < Nat.pow 16 width)
    (h : digits width m = digits width n) : m = n := by
  induction width generalizing m n with
  | zero => exact (Nat.lt_one_iff.mp hm).trans (Nat.lt_one_iff.mp hn).symm
  | succ width ih =>
      change m < Nat.pow 16 width * 16 at hm
      change n < Nat.pow 16 width * 16 at hn
      obtain ⟨hhigh, hlow⟩ := List.append_inj' h rfl
      have hquotient : m / 16 = n / 16 := ih (Nat.div_lt_of_lt_mul (by omega)) (Nat.div_lt_of_lt_mul (by omega)) hhigh
      have hremainder : m % 16 = n % 16 :=
        digit_injective (Nat.mod_lt _ (by decide)) (Nat.mod_lt _ (by decide)) (List.singleton_inj.mp hlow)
      rw [← Nat.div_add_mod m 16, ← Nat.div_add_mod n 16, hquotient, hremainder]

end Hex

namespace Decimal

theorem isDigit_of_mem_repr {n : Nat} {c : Char} (h : c ∈ (Nat.repr n).toList) : c.isDigit = true := by
  rw [Nat.toList_repr] at h
  exact Nat.isDigit_of_mem_toDigits (by decide) (by decide) h

theorem repr_injective {m n : Nat} (h : (Nat.repr m).toList = (Nat.repr n).toList) : m = n := by
  rw [Nat.toList_repr, Nat.toList_repr] at h
  rw [← Nat.ofDigitChars_ten_toDigits (n := m), h, Nat.ofDigitChars_ten_toDigits]

end Decimal

end MetaParity
