import MetaParity.Proofs.Compare
import Mathlib.Data.List.Range

/-! # Positions of a comparison

Where two listings differ, and which positions lie around the first difference. A window clamps its ends to the
positions that can be counted to; what it holds are exactly the items around the first difference, since no listing is
longer. -/

namespace MetaParity

namespace Compare

variable {α : Type} [Listed α]

def differsAt (baseline current : List α) (position : Nat) : Bool :=
  match baseline[position]?, current[position]? with
  | some b, some c => !Listed.same b c
  | none, none => false
  | _, _ => true

def around (index context : Nat) : List Nat :=
  (List.range (index + context + 1)).filter fun position => index ≤ position + context

def lineAt (items : List α) (position : Nat) : Option String :=
  items[position]?.map fun item => "[" ++ Nat.repr position ++ "] " ++ Listed.text item ++ "\n"

def excerpt (index context : Nat) (items : List α) : List String :=
  (around index context).filterMap (lineAt items)

/-! ## First differences -/

@[simp] theorem differsAt_cons_zero (b c : α) (baseline current : List α) :
    differsAt (b :: baseline) (c :: current) 0 = !Listed.same b c :=
  rfl

@[simp] theorem differsAt_cons_succ (b c : α) (baseline current : List α) (position : Nat) :
    differsAt (b :: baseline) (c :: current) (position + 1) = differsAt baseline current position :=
  rfl

theorem differsAt_firstDifference {baseline current : List α} {index : Nat}
    (h : firstDifference baseline current = some index) :
    differsAt baseline current index = true ∧ ∀ position < index, differsAt baseline current position = false := by
  induction baseline generalizing current index with
  | nil =>
      cases current with
      | nil => cases h
      | cons c current =>
          obtain rfl : 0 = index := Option.some.inj h
          exact ⟨rfl, fun position hlt => absurd hlt (Nat.not_lt_zero position)⟩
  | cons b baseline ih =>
      cases current with
      | nil =>
          obtain rfl : 0 = index := Option.some.inj h
          exact ⟨rfl, fun position hlt => absurd hlt (Nat.not_lt_zero position)⟩
      | cons c current =>
          by_cases hsame : Listed.same b c = true
          · rw [firstDifference, if_pos hsame, Option.map_eq_some_iff] at h
            obtain ⟨before, hbefore, rfl⟩ := h
            obtain ⟨hdiffers, hfirst⟩ := ih hbefore
            refine ⟨hdiffers, fun position hlt => ?_⟩
            cases position with
            | zero => rw [differsAt_cons_zero, hsame, Bool.not_true]
            | succ position => exact hfirst position (Nat.lt_of_succ_lt_succ hlt)
          · rw [firstDifference, if_neg hsame] at h
            obtain rfl : 0 = index := Option.some.inj h
            refine ⟨?_, fun position hlt => absurd hlt (Nat.not_lt_zero position)⟩
            rw [differsAt_cons_zero, Bool.eq_false_iff.mpr hsame, Bool.not_false]

theorem lt_length_of_differsAt {baseline current : List α} {position : Nat}
    (h : differsAt baseline current position = true) : position < baseline.length ∨ position < current.length := by
  unfold differsAt at h
  split at h
  · exact .inl (List.getElem?_eq_some_iff.mp ‹_›).1
  · cases h
  · rename_i hnone
    by_contra hpast
    rw [not_or, Nat.not_lt, Nat.not_lt] at hpast
    exact hnone (List.getElem?_eq_none hpast.1) (List.getElem?_eq_none hpast.2)

/-! ## Windows -/

@[simp] theorem mem_around {index context position : Nat} :
    position ∈ around index context ↔ position ≤ index + context ∧ index ≤ position + context := by
  rw [around, List.mem_filter, List.mem_range, decide_eq_true_eq, Nat.lt_succ_iff]

theorem pairwise_around (index context : Nat) : (around index context).Pairwise (· < ·) :=
  List.pairwise_lt_range.filter _

theorem around_eq_range' (index context : Nat) :
    around index context = List.range' (index - context) (index + context + 1 - (index - context)) := by
  obtain ⟨rest, hrest⟩ : ∃ rest, index + context + 1 = index - context + rest :=
    ⟨_, (Nat.add_sub_of_le (by omega)).symm⟩
  -- The positions before the window fail the test, and those from its start on pass it.
  have hbefore : (List.range (index - context)).filter (fun position => decide (index ≤ position + context)) = [] := by
    rw [List.filter_eq_nil_iff]
    intro position hmem
    rw [List.mem_range] at hmem
    simp only [decide_eq_true_eq]
    omega
  have hfrom : (List.range' (index - context) rest).filter (fun position => decide (index ≤ position + context)) =
      List.range' (index - context) rest := by
    rw [List.filter_eq_self]
    intro position hmem
    rw [List.mem_range'_1] at hmem
    simp only [decide_eq_true_eq]
    omega
  rw [around, hrest, Nat.add_sub_cancel_left, List.range_eq_range', ← List.range'_append_1, List.filter_append,
    ← List.range_eq_range', hbefore, Nat.zero_add, hfrom, List.nil_append]

theorem lineAt_eq_none {items : List α} {position : Nat} (h : items.length ≤ position) :
    lineAt items position = none := by
  rw [lineAt, List.getElem?_eq_none h, Option.map_none]

theorem window_eq_join_lineAt (start stop : Nat) (items : List α) :
    window start stop items = String.join ((List.range' start (stop - start)).filterMap (lineAt items)) := by
  rw [window]
  congr 1
  generalize stop - start = count
  induction count with
  | zero => rfl
  | succ count ih =>
      rw [List.take_add_one, List.map_append, ih, List.range'_1_concat, List.filterMap_append]
      congr 1
      rw [List.getElem?_drop, List.getElem?_zipIdx, Nat.zero_add, List.filterMap_cons, List.filterMap_nil, lineAt]
      cases items[start + count]? <;> rfl

theorem filterMap_lineAt_range' {items : List α} {start count more : Nat} (hend : items.length ≤ start + count)
    (hmore : count ≤ more) :
    (List.range' start more).filterMap (lineAt items) = (List.range' start count).filterMap (lineAt items) := by
  obtain ⟨rest, rfl⟩ := Nat.exists_eq_add_of_le hmore
  have hpast : (List.range' (start + count) rest).filterMap (lineAt items) = [] := by
    rw [List.filterMap_eq_nil_iff]
    intro position hmem
    rw [List.mem_range'_1] at hmem
    exact lineAt_eq_none (by omega)
  rw [← List.range'_append_1, List.filterMap_append, hpast, List.append_nil]

/-- The window of a comparison holds the items around the first difference, also where an end of it is clamped. -/
theorem window_eq_excerpt {items : List α} (h : items.length ≤ lastPosition) (index context : Nat) :
    window (index - context) (addWithin (addWithin index context) 1) items =
      String.join (excerpt index context items) := by
  rw [window_eq_join_lineAt, excerpt, around_eq_range']
  congr 1
  by_cases hfits : index + context + 1 ≤ lastPosition
  · rw [addWithin, addWithin, Nat.min_eq_left (by omega : index + context ≤ lastPosition), Nat.min_eq_left hfits]
  · have hclamped : addWithin (addWithin index context) 1 = lastPosition := by
      unfold addWithin
      omega
    rw [hclamped]
    exact (filterMap_lineAt_range' (by omega) (by omega)).symm

end Compare

end MetaParity
