import Mathlib.Data.List.Basic

/-! # Association lists

What is found under a key after the entries of one key were changed or taken out. -/

namespace MetaParity

variable {κ α : Type} [BEq κ] [LawfulBEq κ]

theorem lookup_cons_of_ne {key other : κ} (h : other ≠ key) (value : α) (entries : List (κ × α)) :
    ((key, value) :: entries).lookup other = entries.lookup other := by
  rw [List.lookup_cons, beq_false_of_ne h]

variable [DecidableEq κ]

theorem lookup_cons_eq_ite (key other : κ) (value : α) (entries : List (κ × α)) :
    ((key, value) :: entries).lookup other = if other = key then some value else entries.lookup other := by
  by_cases h : other = key
  · rw [if_pos h, h, List.lookup_cons_self]
  · rw [if_neg h, lookup_cons_of_ne h]

theorem lookup_map_of_key (entries : List (κ × α)) (key other : κ) (change : α → α) :
    (entries.map fun entry => if entry.1 = key then (entry.1, change entry.2) else entry).lookup other =
      if other = key then (entries.lookup other).map change else entries.lookup other := by
  induction entries with
  | nil => simp
  | cons entry entries ih =>
      obtain ⟨held, value⟩ := entry
      rw [List.map_cons]
      by_cases hheld : other = held
      · subst hheld
        by_cases hkey : other = key <;> simp [hkey]
      · by_cases hkey : held = key
        · rw [if_pos hkey, lookup_cons_of_ne hheld, lookup_cons_of_ne hheld, ih]
        · rw [if_neg hkey, lookup_cons_of_ne hheld, lookup_cons_of_ne hheld, ih]

theorem lookup_filter_of_ne {key other : κ} (h : other ≠ key) (entries : List (κ × α)) :
    (entries.filter (·.1 ≠ key)).lookup other = entries.lookup other := by
  induction entries with
  | nil => rfl
  | cons entry entries ih =>
      obtain ⟨held, value⟩ := entry
      by_cases hheld : held = key
      · have hother : other ≠ held := hheld ▸ h
        rw [List.filter_cons_of_neg (by simpa using hheld), lookup_cons_of_ne hother, ih]
      · rw [List.filter_cons_of_pos (by simpa using hheld)]
        by_cases hother : other = held
        · simp [hother]
        · rw [lookup_cons_of_ne hother, lookup_cons_of_ne hother, ih]

end MetaParity
