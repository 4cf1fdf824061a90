import Mathlib.Data.List.Forall2

/-! # Steps that may fail

When computations with errors give a value, and which step decides how they fail. -/

namespace MetaParity

variable {ε ε' α β : Type}

/-! ## One after another -/

theorem bind_eq_ok_iff {m : Except ε α} {f : α → Except ε β} {b : β} :
    m >>= f = .ok b ↔ ∃ a, m = .ok a ∧ f a = .ok b := by
  cases m with
  | error e => exact ⟨fun h => (by cases h), fun ⟨_, h, _⟩ => (by cases h)⟩
  | ok a => exact ⟨fun h => ⟨a, rfl, h⟩, fun ⟨_, rfl, h⟩ => h⟩

theorem pure_eq_ok_iff {a b : α} : (pure a : Except ε α) = .ok b ↔ a = b :=
  ⟨Except.ok.inj, congrArg Except.ok⟩

theorem map_eq_ok_iff {m : Except ε α} {f : α → β} {b : β} : f <$> m = .ok b ↔ ∃ a, m = .ok a ∧ f a = b := by
  simp only [map_eq_pure_bind, bind_eq_ok_iff, pure_eq_ok_iff]

theorem ite_throw_eq_ok_iff {c : Prop} [Decidable c] {e : ε} {f : α → Except ε β} {rest : Except ε β} {b : β} :
    (if c then throw e >>= f else rest) = .ok b ↔ ¬c ∧ rest = .ok b := by
  by_cases hc : c
  · rw [if_pos hc]
    exact ⟨fun h => (by cases h), fun h => absurd hc h.1⟩
  · rw [if_neg hc]
    exact ⟨fun h => ⟨hc, h⟩, fun h => h.2⟩

theorem mapError_eq_error {f : ε → ε'} {x : Except ε α} {e : ε'} :
    x.mapError f = .error e ↔ ∃ cause, x = .error cause ∧ f cause = e := by
  cases x with
  | ok a => exact ⟨fun h => (by cases h), fun ⟨_, h, _⟩ => (by cases h)⟩
  | error cause =>
      constructor
      · exact fun h => ⟨cause, rfl, Except.error.inj h⟩
      · rintro ⟨other, hother, rfl⟩
        rw [Except.error.inj hother]
        rfl

/-! ## One for each item of a list -/

theorem mapM_congr {f g : α → Except ε β} {items : List α} (h : ∀ item ∈ items, f item = g item) :
    items.mapM f = items.mapM g := by
  induction items with
  | nil => rfl
  | cons item items ih =>
      obtain ⟨hitem, hitems⟩ := List.forall_mem_cons.mp h
      rw [List.mapM_cons, List.mapM_cons, hitem, ih hitems]

theorem mapM_eq_ok_iff {f : α → Except ε β} {items : List α} {values : List β} :
    items.mapM f = .ok values ↔ List.Forall₂ (fun item value => f item = .ok value) items values := by
  induction items generalizing values with
  | nil => rw [List.mapM_nil, pure_eq_ok_iff, List.forall₂_nil_left_iff, eq_comm]
  | cons item items ih =>
      simp only [List.mapM_cons, bind_eq_ok_iff, pure_eq_ok_iff, ih, List.forall₂_cons_left_iff]
      constructor
      · rintro ⟨value, hitem, rest, hitems, rfl⟩
        exact ⟨value, rest, hitem, hitems, rfl⟩
      · rintro ⟨value, rest, hitem, hitems, rfl⟩
        exact ⟨value, hitem, rest, hitems, rfl⟩

theorem exists_mapM_eq_ok {f : α → Except ε β} {items : List α} (h : ∀ item ∈ items, ∃ value, f item = .ok value) :
    ∃ values, items.mapM f = .ok values := by
  induction items with
  | nil => exact ⟨[], rfl⟩
  | cons item items ih =>
      obtain ⟨⟨value, hvalue⟩, hitems⟩ := List.forall_mem_cons.mp h
      obtain ⟨values, hvalues⟩ := ih hitems
      exact ⟨value :: values, mapM_eq_ok_iff.mpr (.cons hvalue (mapM_eq_ok_iff.mp hvalues))⟩

theorem mapM_eq_ok_iff_filterMap {f : α → Except ε β} {items : List α} {values : List β} :
    items.mapM f = .ok values ↔
      (∀ item ∈ items, ∃ value, f item = .ok value) ∧ items.filterMap (fun item => (f item).toOption) = values := by
  induction items generalizing values with
  | nil => simp [pure_eq_ok_iff]
  | cons item items ih =>
      simp only [List.mapM_cons, bind_eq_ok_iff, pure_eq_ok_iff, ih, List.forall_mem_cons]
      constructor
      · rintro ⟨value, hitem, rest, ⟨hitems, rfl⟩, rfl⟩
        exact ⟨⟨⟨value, hitem⟩, hitems⟩, by rw [List.filterMap_cons, hitem]; rfl⟩
      · rintro ⟨⟨⟨value, hitem⟩, hitems⟩, rfl⟩
        exact ⟨value, hitem, _, ⟨hitems, rfl⟩, by rw [List.filterMap_cons, hitem]; rfl⟩

/-- The first step that fails decides how all steps of a list fail. -/
theorem mapM_eq_error {f : α → Except ε β} {before after : List α} {item : α} {e : ε}
    (hbefore : ∀ earlier ∈ before, ∃ value, f earlier = .ok value) (hitem : f item = .error e) :
    (before ++ item :: after).mapM f = .error e := by
  obtain ⟨values, hvalues⟩ := exists_mapM_eq_ok hbefore
  rw [List.mapM_append, hvalues, List.mapM_cons, hitem]
  rfl

theorem forall_ok_or_first_error (f : α → Except ε β) (items : List α) :
    (∀ item ∈ items, ∃ value, f item = .ok value) ∨
      ∃ before item after e, items = before ++ item :: after ∧ (∀ earlier ∈ before, ∃ value, f earlier = .ok value) ∧
        f item = .error e := by
  induction items with
  | nil => exact .inl fun _ hmem => (by cases hmem)
  | cons item items ih =>
      cases hitem : f item with
      | error e => exact .inr ⟨[], item, items, e, rfl, fun _ hmem => (by cases hmem), hitem⟩
      | ok value =>
          rcases ih with hall | ⟨before, failing, after, e, rfl, hbefore, hfailing⟩
          · exact .inl (List.forall_mem_cons.mpr ⟨⟨value, hitem⟩, hall⟩)
          · exact .inr ⟨item :: before, failing, after, e, rfl, List.forall_mem_cons.mpr ⟨⟨value, hitem⟩, hbefore⟩,
              hfailing⟩

end MetaParity
