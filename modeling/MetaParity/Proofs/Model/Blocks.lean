import Mathlib.Data.List.Basic

/-! # Reading a flat list back

A list of blocks, each led by a key, can be read back from its concatenation when keys can be told from everything
else, and so can two lists that lie one behind the other when their elements can be told apart. -/

namespace MetaParity

variable {α β : Type} {p : β → Bool}

theorem append_inj_of_test {front front' back back' : List β} (h : front ++ back = front' ++ back')
    (hfront : ∀ b ∈ front, p b = true) (hfront' : ∀ b ∈ front', p b = true)
    (hback : ∀ b ∈ back, p b = false) (hback' : ∀ b ∈ back', p b = false) : front = front' ∧ back = back' := by
  have hfilter := congrArg (List.filter p) h
  rw [List.filter_append, List.filter_append, List.filter_eq_self.mpr hfront, List.filter_eq_self.mpr hfront',
    List.filter_eq_nil_iff.mpr fun b hb => by simp [hback b hb],
    List.filter_eq_nil_iff.mpr fun b hb => by simp [hback' b hb], List.append_nil, List.append_nil] at hfilter
  subst hfilter
  exact ⟨rfl, List.append_cancel_left h⟩

/-- Blocks one behind the other: the elements before the next key are the body of the first block. -/
theorem takeWhile_body_append {key : α → β} {body : α → List β} {block : List β} {blocks : List α}
    (hkey : ∀ a ∈ blocks, p (key a) = true) (hblock : ∀ b ∈ block, p b = false) :
    (block ++ blocks.flatMap fun a => key a :: body a).takeWhile (fun b => !p b) = block := by
  have hrest : (blocks.flatMap fun a => key a :: body a).takeWhile (fun b => !p b) = [] := by
    cases blocks with
    | nil => rfl
    | cons a blocks => simp [hkey a (by simp)]
  rw [List.takeWhile_append_of_pos (by simpa using hblock), hrest, List.append_nil]

/-- Blocks of keys and bodies are determined by their concatenation when a test tells keys from elements of bodies. -/
theorem map_eq_of_flatMap_eq {key : α → β} {body : α → List β} {blocks blocks' : List α}
    (h : (blocks.flatMap fun a => key a :: body a) = blocks'.flatMap fun a => key a :: body a)
    (hkey : ∀ a ∈ blocks ++ blocks', p (key a) = true) (hbody : ∀ a ∈ blocks ++ blocks', ∀ b ∈ body a, p b = false) :
    (blocks.map fun a => (key a, body a)) = blocks'.map fun a => (key a, body a) := by
  induction blocks generalizing blocks' with
  | nil =>
      cases blocks' with
      | nil => rfl
      | cons a' blocks' => simp at h
  | cons a blocks ih =>
      cases blocks' with
      | nil => simp at h
      | cons a' blocks' =>
          rw [List.flatMap_cons, List.flatMap_cons, List.cons_append, List.cons_append] at h
          obtain ⟨hfirst, hrest⟩ := List.cons.inj h
          -- Either body ends where the next key stands, or where the blocks end.
          have htake : (body a ++ blocks.flatMap fun a => key a :: body a).takeWhile (fun b => !p b) = body a :=
            takeWhile_body_append (fun b hb => hkey b (by simp [hb])) (hbody a (by simp))
          have htake' : (body a' ++ blocks'.flatMap fun a => key a :: body a).takeWhile (fun b => !p b) = body a' :=
            takeWhile_body_append (fun b hb => hkey b (by simp [hb])) (hbody a' (by simp))
          have hsame : body a = body a' := by
            rw [← htake, hrest, htake']
          rw [hsame] at hrest
          have hblocks := ih (List.append_cancel_left hrest)
            (fun b hb => hkey b (by rcases List.mem_append.mp hb with hb | hb <;> simp [hb]))
            (fun b hb => hbody b (by rcases List.mem_append.mp hb with hb | hb <;> simp [hb]))
          rw [List.map_cons, List.map_cons, hfirst, hsame, hblocks]

theorem eq_of_map_eq {γ δ : Type} {f : α → γ} {g : α → δ} {items items' : List α}
    (hf : items.map f = items'.map f) (hg : items.map g = items'.map g)
    (hinj : ∀ a ∈ items, ∀ a' ∈ items', f a = f a' → g a = g a' → a = a') : items = items' := by
  induction items generalizing items' with
  | nil => simpa using hf
  | cons a items ih =>
      cases items' with
      | nil => simp at hf
      | cons a' items' =>
          rw [List.map_cons, List.map_cons] at hf hg
          obtain ⟨hfa, hf⟩ := List.cons.inj hf
          obtain ⟨hga, hg⟩ := List.cons.inj hg
          rw [hinj a (by simp) a' (by simp) hfa hga, ih hf hg fun b hb b' hb' =>
            hinj b (List.mem_cons_of_mem _ hb) b' (List.mem_cons_of_mem _ hb')]

end MetaParity
