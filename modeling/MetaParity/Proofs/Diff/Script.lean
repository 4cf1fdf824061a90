import MetaParity.Diff.Stretch
import Mathlib.Data.List.Flatten
import Mathlib.Data.List.Perm.Basic

/-! # Shortest scripts

A script costs what it does not keep. When the lines that two lists share stand in the same order in both, a shortest
script keeps exactly these, and removes and adds the others. -/

namespace MetaParity.Diff

variable {α : Type}

inductive Mark where
  | unchanged
  | removed
  | added
deriving DecidableEq

def Stretch.marked : Mark → Stretch α → List α
  | .unchanged, .same lines | .removed, .removed lines _ | .added, .added lines _ => lines
  | _, _ => []

theorem Stretch.old_eq (stretch : Stretch α) : stretch.old = stretch.marked .unchanged ++ stretch.marked .removed := by
  cases stretch <;> simp [old, marked]

theorem Stretch.new_eq (stretch : Stretch α) : stretch.new = stretch.marked .unchanged ++ stretch.marked .added := by
  cases stretch <;> simp [new, marked]

theorem Stretch.cost_eq (stretch : Stretch α) :
    stretch.cost = (stretch.marked .removed).length + (stretch.marked .added).length := by
  cases stretch <;> simp [cost, marked]

namespace Script

def marked (mark : Mark) (script : Script α) : List α :=
  script.flatMap (Stretch.marked mark)

@[simp] theorem marked_nil (mark : Mark) : marked mark ([] : Script α) = [] :=
  rfl

@[simp] theorem marked_cons (mark : Mark) (stretch : Stretch α) (script : Script α) :
    marked mark (stretch :: script) = stretch.marked mark ++ marked mark script :=
  List.flatMap_cons

/-- A script that leads from one list to another at the least cost. -/
structure Shortest (script : Script α) (old new : List α) : Prop where
  old_eq : script.old = old
  new_eq : script.new = new
  cost_le (other : Script α) : other.old = old → other.new = new → script.cost ≤ other.cost

/-! ## Parts of a list

Both lists of a script come in stretches, each of which begins with what the script keeps of it. -/

section Parts

variable {β : Type} {whole kept rest : β → List α} (hparts : ∀ piece, whole piece = kept piece ++ rest piece)

include hparts

theorem flatMap_perm (pieces : List β) :
    (pieces.flatMap whole).Perm (pieces.flatMap kept ++ pieces.flatMap rest) := by
  rw [funext hparts]
  exact (List.flatMap_append_perm pieces kept rest).symm

theorem flatMap_sublist (pieces : List β) : (pieces.flatMap kept).Sublist (pieces.flatMap whole) := by
  induction pieces with
  | nil => exact .slnil
  | cons piece pieces ih =>
      rw [List.flatMap_cons, List.flatMap_cons, hparts]
      exact (List.sublist_append_left _ _).append ih

theorem filter_flatMap_eq {pieces : List β} {p : α → Bool} (hkept : ∀ a ∈ pieces.flatMap kept, p a = false)
    (hrest : ∀ a ∈ pieces.flatMap rest, p a = true) :
    (pieces.flatMap whole).filter p = pieces.flatMap rest := by
  induction pieces with
  | nil => rfl
  | cons piece pieces ih =>
      simp only [List.flatMap_cons, List.forall_mem_append] at hkept hrest
      rw [List.flatMap_cons, List.flatMap_cons, List.filter_append, hparts, List.filter_append,
        List.filter_eq_nil_iff.mpr fun a hmem => by rw [hkept.1 a hmem]; decide,
        List.filter_eq_self.mpr hrest.1, ih hkept.2 hrest.2, List.nil_append]

theorem filter_not_flatMap_eq {pieces : List β} {p : α → Bool}
    (h : pieces.flatMap kept = (pieces.flatMap whole).filter p) :
    (pieces.flatMap whole).filter (fun a => !p a) = pieces.flatMap rest := by
  have hkept : ∀ a ∈ pieces.flatMap kept, p a = true := by
    rw [h]
    exact fun a hmem => (List.mem_filter.mp hmem).2
  -- The first parts already are as many as all that passes, so nothing of the second does.
  have hlength := ((flatMap_perm hparts pieces).filter p).length_eq
  rw [List.filter_append, List.length_append, List.filter_eq_self.mpr hkept, ← h] at hlength
  have hnone : (pieces.flatMap rest).filter p = [] := List.eq_nil_of_length_eq_zero (by omega)
  apply filter_flatMap_eq hparts
  · exact fun a hmem => by rw [hkept a hmem, Bool.not_true]
  · exact fun a hmem => by rw [Bool.eq_false_iff.mpr (List.filter_eq_nil_iff.mp hnone a hmem), Bool.not_false]

end Parts

section Kept

variable {script : Script α} {old new : List α}

theorem mem_of_mem_marked {mark : Mark} {line : α} (h : line ∈ script.marked mark) :
    line ∈ script.old ∨ line ∈ script.new := by
  have hold := flatMap_perm Stretch.old_eq script
  have hnew := flatMap_perm Stretch.new_eq script
  cases mark with
  | unchanged => exact .inl (hold.mem_iff.mpr (List.mem_append_left _ h))
  | removed => exact .inl (hold.mem_iff.mpr (List.mem_append_right _ h))
  | added => exact .inr (hnew.mem_iff.mpr (List.mem_append_right _ h))

theorem cost_eq (script : Script α) :
    script.cost = (script.marked .removed).length + (script.marked .added).length := by
  induction script with
  | nil => rfl
  | cons stretch script ih =>
      rw [marked_cons, marked_cons, List.length_append, List.length_append, cost, List.foldr_cons, stretch.cost_eq]
      rw [cost] at ih
      omega

/-- A script costs the more the less it keeps. -/
theorem cost_add (hold : script.old = old) (hnew : script.new = new) :
    script.cost + 2 * (script.marked .unchanged).length = old.length + new.length := by
  have hremoved := (flatMap_perm Stretch.old_eq script).length_eq
  have hadded := (flatMap_perm Stretch.new_eq script).length_eq
  rw [List.length_append] at hremoved hadded
  rw [cost_eq, ← hold, ← hnew]
  simp only [Script.old, Script.new, marked]
  omega

theorem exists_keeping {kept : List α} (hold : kept.Sublist old) (hnew : kept.Sublist new) :
    ∃ script : Script α, script.old = old ∧ script.new = new ∧ script.marked .unchanged = kept := by
  -- Induction on how the kept lines stand in the first list; the second is cut where the next of them stands.
  induction hold generalizing new with
  | slnil => exact ⟨[.added new 0], rfl, List.append_nil new, rfl⟩
  | cons line _ ih =>
      obtain ⟨script, rfl, rfl, rfl⟩ := ih hnew
      exact ⟨.removed [line] 0 :: script, rfl, rfl, rfl⟩
  | cons_cons line _ ih =>
      obtain ⟨before, after, rfl, hmem, hafter⟩ := List.cons_sublist_iff.mp hnew
      obtain ⟨first, rest, rfl⟩ := List.append_of_mem hmem
      obtain ⟨script, rfl, hscript, rfl⟩ := ih (hafter.trans (List.sublist_append_right rest after))
      refine ⟨.added first 0 :: .same [line] :: script, rfl, ?_, rfl⟩
      show first ++ ([line] ++ script.new) = _
      rw [hscript]
      simp

variable [DecidableEq α]

theorem marked_unchanged_sublist (hold : script.old = old) (hnew : script.new = new) :
    (script.marked .unchanged).Sublist (old.filter (· ∈ new)) := by
  obtain rfl := hold
  obtain rfl := hnew
  have hold : (script.marked .unchanged).Sublist script.old := flatMap_sublist Stretch.old_eq script
  have hnew : (script.marked .unchanged).Sublist script.new := flatMap_sublist Stretch.new_eq script
  have hfilter := hold.filter fun line => decide (line ∈ script.new)
  rwa [List.filter_eq_self.mpr fun line hmem => decide_eq_true (hnew.subset hmem)] at hfilter

/-- A script that keeps every line that stands in both lists is shortest. -/
theorem Shortest.of_marked_unchanged (hold : script.old = old) (hnew : script.new = new)
    (h : script.marked .unchanged = old.filter (· ∈ new)) : script.Shortest old new := by
  refine ⟨hold, hnew, fun other hold' hnew' => ?_⟩
  have hlength := (marked_unchanged_sublist hold' hnew').length_le
  rw [← h] at hlength
  have hcost := cost_add hold hnew
  have hcost' := cost_add hold' hnew'
  omega

/-- A shortest script keeps every line that stands in both lists, when these stand in the same order in both. -/
theorem Shortest.marked_unchanged (h : script.Shortest old new)
    (hshared : old.filter (· ∈ new) = new.filter (· ∈ old)) :
    script.marked .unchanged = old.filter (· ∈ new) := by
  have hshared_new : (old.filter (· ∈ new)).Sublist new := hshared ▸ List.filter_sublist
  obtain ⟨other, hold, hnew, hkept⟩ := exists_keeping List.filter_sublist hshared_new
  have hle := h.cost_le other hold hnew
  have hcost := cost_add h.old_eq h.new_eq
  have hcost' := cost_add hold hnew
  rw [hkept] at hcost'
  exact (marked_unchanged_sublist h.old_eq h.new_eq).eq_of_length_le (by omega)

theorem Shortest.marked_removed (h : script.Shortest old new) (hshared : old.filter (· ∈ new) = new.filter (· ∈ old)) :
    script.marked .removed = old.filter (· ∉ new) := by
  obtain rfl := h.old_eq
  simp only [decide_not]
  exact (filter_not_flatMap_eq Stretch.old_eq (h.marked_unchanged hshared)).symm

theorem Shortest.marked_added (h : script.Shortest old new) (hshared : old.filter (· ∈ new) = new.filter (· ∈ old)) :
    script.marked .added = new.filter (· ∉ old) := by
  obtain rfl := h.new_eq
  simp only [decide_not]
  exact (filter_not_flatMap_eq Stretch.new_eq ((h.marked_unchanged hshared).trans hshared)).symm

end Kept

end Script

end MetaParity.Diff
