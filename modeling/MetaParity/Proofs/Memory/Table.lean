import MetaParity.Memory.Session
import MetaParity.Proofs.Lookup

/-! # Handle tables

What opening, moving and closing an enumeration does to the table of a session: to the handle itself, to every other
handle, and to the list of handles. -/

namespace MetaParity.Memory

namespace HandleTable

def keys (table : HandleTable) : List Nat :=
  table.entries.map (·.1)

theorem isSome_get? (table : HandleTable) (handle : Handle) :
    (table.get? handle).isSome ↔ handle.id ∈ table.keys := by
  simp only [get?, keys, List.lookup_isSome_iff, List.mem_map, beq_iff_eq]
  exact exists_congr fun entry => and_congr_right fun _ => eq_comm

/-! ## Opening -/

@[simp] theorem keys_add (table : HandleTable) (enumeration : Enumeration) :
    (table.add enumeration).2.keys = (table.last + 1) :: table.keys := rfl

@[simp] theorem get?_add_self (table : HandleTable) (enumeration : Enumeration) :
    (table.add enumeration).2.get? ⟨table.last + 1⟩ = some enumeration := by
  simp [get?, add]

theorem get?_add_of_ne (table : HandleTable) (enumeration : Enumeration) {handle : Handle}
    (h : handle.id ≠ table.last + 1) : (table.add enumeration).2.get? handle = table.get? handle := by
  exact lookup_cons_of_ne h _ _

/-! ## Moving -/

@[simp] theorem keys_move (table : HandleTable) (handle : Handle) (position : Nat) :
    (table.move handle position).keys = table.keys := by
  simp only [keys, move, List.map_map]
  apply List.map_congr_left
  intro entry _
  simp only [Function.comp_apply]
  split <;> rfl

theorem get?_move (table : HandleTable) (handle other : Handle) (position : Nat) :
    (table.move handle position).get? other =
      if other = handle then (table.get? other).map ({ · with position }) else table.get? other := by
  rcases handle with ⟨id⟩
  rcases other with ⟨id'⟩
  simp only [get?, move, Handle.mk.injEq]
  exact lookup_map_of_key table.entries id id' fun enumeration => { enumeration with position }

@[simp] theorem move_move (table : HandleTable) (handle : Handle) (first second : Nat) :
    (table.move handle first).move handle second = table.move handle second := by
  simp only [move, List.map_map]
  congr 1
  apply List.map_congr_left
  intro entry _
  by_cases hkey : entry.1 = handle.id <;> simp [hkey]

/-! ## Closing -/

@[simp] theorem keys_remove (table : HandleTable) (handle : Handle) :
    (table.remove handle).keys = table.keys.filter (· ≠ handle.id) := by
  simp [keys, remove, List.filter_map, Function.comp_def]

theorem length_keys_remove (table : HandleTable) {handle : Handle} (hnodup : table.keys.Nodup)
    (hmem : handle.id ∈ table.keys) : (table.remove handle).keys.length + 1 = table.keys.length := by
  have hpos := List.length_pos_of_mem hmem
  have herase : table.keys.filter (· ≠ handle.id) = table.keys.erase handle.id := by
    rw [hnodup.erase_eq_filter]
    exact List.filter_congr fun key _ => by simp [bne, Bool.beq_eq_decide_eq]
  rw [keys_remove, herase, List.length_erase_of_mem hmem]
  omega

theorem get?_remove_of_ne (table : HandleTable) {handle other : Handle} (h : other ≠ handle) :
    (table.remove handle).get? other = table.get? other := by
  rcases handle with ⟨id⟩
  rcases other with ⟨id'⟩
  have hne : id' ≠ id := by simpa using h
  exact lookup_filter_of_ne hne _

end HandleTable

end MetaParity.Memory
