import Mathlib.Data.List.Nodup
import Mathlib.Data.List.TakeDrop
import MetaParity.Replay

/-! # Replays by their counts

What a replay of a list produces when it is told some count, right or wrong. Its three drains are compared as one list,
from which they can be told apart as long as no item occurs twice. -/

namespace MetaParity

/-! ## Three drains in one list -/

section

variable {α : Type} {items items' tail tail' : List α}

private theorem eq_of_append_append_of_prefix (hnodup : items'.Nodup) (htail : tail ⊆ items)
    (hfront : items <+: items') (h : items ++ tail ++ items = items' ++ tail' ++ items') :
    items = items' ∧ tail = tail' := by
  obtain ⟨rest, rfl⟩ := hfront
  cases rest with
  | nil => simpa using h
  | cons item rest =>
      -- What the longer list has beyond the shorter one would have to occur in that, too.
      have hbehind : tail ++ items = item :: (rest ++ tail' ++ (items ++ item :: rest)) := by
        simpa using h
      have hmem : item ∈ tail ++ items := by
        rw [hbehind]
        exact List.mem_cons_self
      have hitem : item ∈ items := by
        rcases List.mem_append.mp hmem with hitem | hitem
        · exact htail hitem
        · exact hitem
      exact absurd List.mem_cons_self (List.disjoint_of_nodup_append hnodup hitem)

/-- A list without duplicates, some of its items and the list again determine both. -/
theorem eq_of_append_append (hnodup : items.Nodup) (hnodup' : items'.Nodup) (htail : tail ⊆ items)
    (htail' : tail' ⊆ items') (h : items ++ tail ++ items = items' ++ tail' ++ items') :
    items = items' ∧ tail = tail' := by
  have hleft : items <+: items ++ tail ++ items := ⟨tail ++ items, by simp⟩
  have hright : items' <+: items ++ tail ++ items := ⟨tail' ++ items', by simp [h]⟩
  rcases List.prefix_or_prefix_of_prefix hleft hright with hfront | hfront
  · exact eq_of_append_append_of_prefix hnodup' htail hfront h
  · obtain ⟨hitems, htails⟩ := eq_of_append_append_of_prefix hnodup htail' hfront h.symm
    exact ⟨hitems.symm, htails.symm⟩

theorem eq_nil_of_eq_append_append (hnodup : items.Nodup) (htail : tail ⊆ items')
    (h : items = items' ++ tail ++ items') : items = [] ∧ tail = [] ∧ items' = [] := by
  have hnil : items' = [] := by
    rw [h] at hnodup
    cases items' with
    | nil => rfl
    | cons item items' =>
        have hmem : item ∈ item :: items' := List.mem_cons_self
        exact absurd hmem (List.disjoint_of_nodup_append hnodup (List.mem_append_left tail hmem))
  rw [hnil, List.subset_nil] at htail
  rw [hnil, htail] at h
  exact ⟨h, htail, hnil⟩

end

/-! ## Drains of one cursor -/

/-- The drains of the members of a type, all three of one cursor, the last two after resets of it. -/
def CursorDrive.replayMembers {σ : Type} (session : Import σ) (capacity : Nat) (scope : Token) :
    CursorDrive σ Replay := do
  let first ← drain session capacity
  let count ← count session
  if count = 0 then return { scope, first, count }
  else
    reset session (count - 1)
    let afterTailReset ← drain session capacity
    reset session 0
    let afterFullReset ← drain session capacity
    return { scope, first, count, afterTailReset, afterFullReset }

theorem Lister.replay_eq {σ : Type} (lister : Lister σ) :
    lister.replay = lister.collect .typeDefs >>= fun types =>
      match types with
      | [] => pure {}
      | scope :: _ => Drive.onCursor lister.session (.members scope)
          (CursorDrive.replayMembers lister.session lister.capacity scope) := rfl

namespace Replay

/-- The drains of a replay went over these items: all of them, and some and all of them again unless nothing was reset. -/
def Covers (replay : Replay) (items : List Token) : Prop :=
  replay.first = items ∧ (replay.afterTailReset = [] ∧ replay.afterFullReset = [] ∨
    replay.afterTailReset ⊆ items ∧ replay.afterFullReset = items)

/-- Two replays of items that are pairwise distinct produce one list if and only if each of their drains does. -/
theorem tokens_eq_iff {replay replay' : Replay} {items items' : List Token} (h : replay.Covers items)
    (h' : replay'.Covers items') (hnodup : items.Nodup) (hnodup' : items'.Nodup) :
    replay.tokens = replay'.tokens ↔ replay.first = replay'.first ∧
      replay.afterTailReset = replay'.afterTailReset ∧ replay.afterFullReset = replay'.afterFullReset := by
  constructor
  · intro htokens
    obtain ⟨hfirst, hdrains⟩ := h
    obtain ⟨hfirst', hdrains'⟩ := h'
    rw [tokens, tokens, hfirst, hfirst'] at htokens
    rw [hfirst, hfirst']
    rcases hdrains with ⟨htail, hfull⟩ | ⟨htail, hfull⟩ <;> rcases hdrains' with ⟨htail', hfull'⟩ | ⟨htail', hfull'⟩
    · rw [htail, hfull, htail', hfull', List.append_nil, List.append_nil, List.append_nil, List.append_nil] at htokens
      exact ⟨htokens, htail.trans htail'.symm, hfull.trans hfull'.symm⟩
    · rw [htail, hfull, hfull', List.append_nil, List.append_nil] at htokens
      obtain ⟨hitems, hrest, hitems'⟩ := eq_nil_of_eq_append_append hnodup htail' htokens
      rw [htail, hrest, hfull, hfull', hitems, hitems']
      exact ⟨rfl, rfl, rfl⟩
    · rw [htail', hfull', hfull, List.append_nil, List.append_nil] at htokens
      obtain ⟨hitems', hrest, hitems⟩ := eq_nil_of_eq_append_append hnodup' htail htokens.symm
      rw [htail', hrest, hfull, hfull', hitems, hitems']
      exact ⟨rfl, rfl, rfl⟩
    · rw [hfull, hfull'] at htokens
      obtain ⟨hitems, htails⟩ := eq_of_append_append hnodup hnodup' htail htail' htokens
      exact ⟨hitems, htails, by rw [hfull, hfull', hitems]⟩
  · rintro ⟨hfirst, htail, hfull⟩
    rw [tokens, tokens, hfirst, htail, hfull]

/-- An item that was replayed beyond its end is not told from two of its kind of which none was. -/
example :
    let beyond : Replay := { first := [⟨0x06000001⟩], count := 2, afterFullReset := [⟨0x06000001⟩] }
    let twice : Replay := { first := [⟨0x06000001⟩, ⟨0x06000001⟩] }
    beyond.Covers [⟨0x06000001⟩] ∧ twice.Covers [⟨0x06000001⟩, ⟨0x06000001⟩] ∧
    beyond.tokens = twice.tokens ∧ beyond.first ≠ twice.first :=
  ⟨⟨rfl, .inr ⟨List.nil_subset _, rfl⟩⟩, ⟨rfl, .inl ⟨rfl, rfl⟩⟩, rfl, by decide⟩

theorem exists_detail_of_check {replay : Replay} {side : Side} {failure : Failure}
    (h : replay.check side = .error failure) : ∃ detail, failure = .replayInconsistent side detail := by
  unfold check at h
  dsimp only at h
  split at h
  · cases h
  · split at h
    · cases h
      exact ⟨_, rfl⟩
    · split at h
      · cases h
        exact ⟨_, rfl⟩
      · cases h

/-! ## Replays that are told a count -/

/-- What a replay of items produces when it is told this count of them. -/
def ofCount (scope : Token) (items : List Token) (count : UInt32) : Replay :=
  if count = 0 then { scope, first := items, count }
  else { scope, first := items, count, afterTailReset := items.drop (count - 1).toNat, afterFullReset := items }

variable (scope : Token) (items : List Token) {count : UInt32}

theorem ofCount_zero : ofCount scope items 0 = { scope, first := items } := rfl

theorem toNat_sub_one (h : count ≠ 0) : (count - 1).toNat = count.toNat - 1 ∧ 0 < count.toNat := by
  have hpos : 0 < count.toNat := Nat.pos_of_ne_zero fun hzero => h (UInt32.toNat_inj.mp hzero)
  have hle : (1 : UInt32) ≤ count := by
    rw [UInt32.le_iff_toNat_le]
    exact hpos
  exact ⟨UInt32.toNat_sub_of_le _ _ hle, hpos⟩

theorem ofCount_of_ne_zero (h : count ≠ 0) : ofCount scope items count =
    { scope, first := items, count, afterTailReset := items.drop (count.toNat - 1), afterFullReset := items } := by
  rw [ofCount, if_neg h, (toNat_sub_one h).1]

section

variable (count : UInt32)

@[simp] theorem scope_ofCount : (ofCount scope items count).scope = some scope := by
  unfold ofCount
  split <;> rfl

@[simp] theorem first_ofCount : (ofCount scope items count).first = items := by
  unfold ofCount
  split <;> rfl

@[simp] theorem count_ofCount : (ofCount scope items count).count = count := by
  unfold ofCount
  split <;> rfl

@[simp] theorem afterFullReset_ofCount :
    (ofCount scope items count).afterFullReset = if count = 0 then [] else items := by
  unfold ofCount
  split <;> rfl

@[simp] theorem afterTailReset_ofCount :
    (ofCount scope items count).afterTailReset = if count = 0 then [] else items.drop (count.toNat - 1) := by
  by_cases hzero : count = 0
  · rw [hzero, ofCount_zero, if_pos rfl]
  · rw [ofCount_of_ne_zero scope items hzero, if_neg hzero]

end

theorem covers_ofCount (count : UInt32) : (ofCount scope items count).Covers items := by
  by_cases hzero : count = 0
  · rw [hzero]
    exact ⟨rfl, .inl ⟨rfl, rfl⟩⟩
  · rw [ofCount_of_ne_zero scope items hzero]
    exact ⟨rfl, .inr ⟨List.drop_subset _ _, rfl⟩⟩

theorem check_ofCount_eq_ok_iff (side : Side) :
    (ofCount scope items count).check side = .ok () ↔ count = 0 ∨ count.toNat = items.length := by
  by_cases hzero : count = 0
  · rw [hzero]
    exact ⟨fun _ => .inl rfl, fun _ => rfl⟩
  · have hpos := (toNat_sub_one hzero).2
    have hlength := List.length_drop (i := count.toNat - 1) (l := items)
    rw [ofCount_of_ne_zero scope items hzero, check]
    dsimp only
    rw [if_neg hzero]
    by_cases hcount : count.toNat = items.length
    · have hne : items ≠ [] := by
        rintro rfl
        simp only [List.length_nil] at hcount
        omega
      have hlast := List.drop_length_sub_one hne
      rw [hcount, if_neg, if_neg]
      · simp
      · simp
      · simp [hlast, List.getLast?_eq_some_getLast hne]
    · rw [if_pos]
      · simp [hzero, hcount]
      · refine .inl fun hone => ?_
        omega

/-- A replay produces what it should if and only if it was told the truth or there was nothing to replay. -/
theorem tokens_ofCount_eq_iff :
    (ofCount scope items count).tokens = items ++ items.drop (items.length - 1) ++ items ↔
      count.toNat = items.length ∨ items = [] := by
  constructor
  · intro htokens
    have hlengths := congrArg List.length htokens
    by_cases hempty : items = []
    · exact .inr hempty
    · have hlength := List.length_pos_iff.mpr hempty
      refine .inl ?_
      by_cases hzero : count = 0
      · rw [hzero, ofCount_zero, tokens] at hlengths
        simp only [List.append_nil, List.length_append] at hlengths
        omega
      · have hpos := (toNat_sub_one hzero).2
        rw [ofCount_of_ne_zero scope items hzero, tokens] at hlengths
        simp only [List.length_append, List.length_drop] at hlengths
        omega
  · rintro (hcount | rfl)
    · by_cases hzero : count = 0
      · have hnil : items = [] := by
          rw [hzero] at hcount
          exact List.eq_nil_of_length_eq_zero hcount.symm
        rw [hzero, hnil]
        rfl
      · rw [ofCount_of_ne_zero scope items hzero, tokens, hcount]
    · by_cases hzero : count = 0
      · rw [hzero]
        rfl
      · rw [ofCount_of_ne_zero scope [] hzero, tokens]
        simp

end Replay

end MetaParity
