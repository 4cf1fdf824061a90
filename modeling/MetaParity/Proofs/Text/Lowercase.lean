import MetaParity.Text.Lowercase
import Mathlib.Data.Bool.AllAny

/-! # Which characters become plain ones

Small letters, the hyphen and the underscore are the lower case of themselves, and small letters that of their capitals.
Of all other characters only the Kelvin sign has a lower case among them. -/

namespace MetaParity.Text

def plainCharacters : List Char :=
  ['a', 'b', 'c', 'd', 'e', 'f', 'g', 'h', 'i', 'j', 'k', 'l', 'm', 'n', 'o', 'p', 'q', 'r', 's', 't', 'u', 'v', 'w',
   'x', 'y', 'z', '-', '_']

/-- A character is another or its capital, or the Kelvin sign for a `k`. -/
def IsCaseOf (c plain : Char) : Prop :=
  c = plain ∨ c = plain.toUpper ∨ c = '\u212a' ∧ plain = 'k'

instance (c plain : Char) : Decidable (IsCaseOf c plain) :=
  inferInstanceAs (Decidable (c = plain ∨ c = plain.toUpper ∨ c = '\u212a' ∧ plain = 'k'))

variable {c plain : Char}

theorem toNat_of_plain : ∀ plain ∈ plainCharacters, 0 < plain.toNat ∧ plain.toNat < 0x80 :=
  List.all_iff_forall_prop.mp (by decide)

/-- No code point beyond ASCII is that of a plain character, be it valid or not. -/
theorem ofNat_ne_of_plain (h : plain ∈ plainCharacters) {point : Nat} (hpoint : 0x80 ≤ point) :
    Char.ofNat point ≠ plain := by
  have htoNat : (Char.ofNat point).toNat = point ∨ (Char.ofNat point).toNat = 0 := by
    by_cases hvalid : point.isValidChar
    · rw [Char.ofNat, dif_pos hvalid]
      exact .inl rfl
    · rw [Char.ofNat, dif_neg hvalid]
      exact .inr rfl
  rintro rfl
  have hrange := toNat_of_plain _ h
  omega

/-! ## Runs -/

theorem lowerRuns_cases : ∀ run ∈ lowerRuns,
    run.first = 0x41 ∧ run.last = 0x5a ∧ run.shift = 32 ∨
      run.first = 0x212a ∧ run.last = 0x212a ∧ run.shift = -8383 ∨ 0x80 ≤ run.first + run.shift := by
  decide +kernel

theorem toUpper_capital : ∀ n < 26, (Char.ofNat (0x61 + n)).toUpper = Char.ofNat (0x41 + n) := by
  decide

theorem lowerChar_plain : ∀ plain ∈ plainCharacters, lowerChar plain = [plain] ∧ lowerChar plain.toUpper = [plain] :=
  List.all_iff_forall_prop.mp (by decide +kernel)

theorem lowerChar_kelvin : lowerChar '\u212a' = ['k'] := by
  decide +kernel

theorem not_isCaseOf_sigma : ∀ plain ∈ plainCharacters, ¬IsCaseOf 'Σ' plain :=
  List.all_iff_forall_prop.mp (by decide)

theorem isCaseOf_of_run (hplain : plain ∈ plainCharacters) {run : CaseRun} (hrun : run ∈ lowerRuns)
    (hcovers : run.covers c.toNat) (h : Char.ofNat (c.toNat + run.shift).toNat = plain) : IsCaseOf c plain := by
  simp only [CaseRun.covers, Bool.and_eq_true, decide_eq_true_eq] at hcovers
  obtain ⟨⟨hfirst, hlast⟩, -⟩ := hcovers
  rcases lowerRuns_cases run hrun with ⟨hfirst', hlast', hshift⟩ | ⟨hfirst', hlast', hshift⟩ | hbeyond
  · obtain ⟨n, hn⟩ : ∃ n, c.toNat = 0x41 + n := ⟨c.toNat - 0x41, by omega⟩
    have hlower : (c.toNat + run.shift).toNat = 0x61 + n := by omega
    refine .inr (.inl ?_)
    rw [← h, hlower, toUpper_capital n (by omega), ← hn, Char.ofNat_toNat]
  · have hkelvin : c.toNat = 0x212a := by omega
    have hlower : (c.toNat + run.shift).toNat = 0x6b := by omega
    refine .inr (.inr ⟨?_, ?_⟩)
    · rw [← Char.ofNat_toNat c, hkelvin]
    · rw [← h, hlower]
  · exact absurd h (ofNat_ne_of_plain hplain (by omega))

/-! ## Characters -/

variable {before after : List Char}

/-- The lower case of a character is one character, but for the capital `I` with a dot, which keeps the dot. -/
theorem exists_lowerWithin (before : List Char) (c : Char) (after : List Char) :
    (∃ lower, lowerWithin before c after = [lower]) ∨ lowerWithin before c after = ['i', '\u0307'] := by
  unfold lowerWithin lowerChar
  split
  · split
    · exact .inl ⟨_, rfl⟩
    · exact .inl ⟨_, rfl⟩
  · split
    · exact .inr rfl
    · split
      · exact .inl ⟨_, rfl⟩
      · exact .inl ⟨_, rfl⟩

/-- Within any text a plain character is the lower case of its own cases and of no other character. -/
theorem lowerWithin_eq_iff (hplain : plain ∈ plainCharacters) :
    lowerWithin before c after = [plain] ↔ IsCaseOf c plain := by
  constructor
  · unfold lowerWithin lowerChar
    intro h
    split at h
    · -- Neither form of a small sigma is plain.
      split at h
      · obtain rfl := List.singleton_inj.mp h
        exact absurd hplain (by decide)
      · obtain rfl := List.singleton_inj.mp h
        exact absurd hplain (by decide)
    · split at h
      · cases h
      · split at h
        · next run hrun =>
            exact isCaseOf_of_run hplain (List.mem_of_find?_eq_some hrun) (by simpa using List.find?_some hrun)
              (List.singleton_inj.mp h)
        · exact .inl (List.singleton_inj.mp h)
  · intro h
    have hsigma : c ≠ 'Σ' := by
      rintro rfl
      exact not_isCaseOf_sigma plain hplain h
    rw [lowerWithin, if_neg hsigma]
    rcases h with rfl | rfl | ⟨rfl, rfl⟩
    · exact (lowerChar_plain _ hplain).1
    · exact (lowerChar_plain _ hplain).2
    · exact lowerChar_kelvin

end MetaParity.Text
