import MetaParity.Listing
import Mathlib.Data.List.Forall2

/-! # Comparison is exact

A comparison finds no difference exactly when the listings have one length and count as equal item by item. Otherwise it
finds the first position at which they differ. -/

namespace MetaParity

namespace Compare

variable {α : Type} [Listed α]

theorem firstDifference_eq_none_iff (baseline current : List α) :
    firstDifference baseline current = none ↔ List.Forall₂ (fun b c => Listed.same b c = true) baseline current := by
  induction baseline generalizing current with
  | nil => cases current <;> simp [firstDifference]
  | cons b baseline ih =>
      cases current with
      | nil => simp [firstDifference]
      | cons c current =>
          by_cases h : Listed.same b c = true
          · simp [firstDifference, h, ih]
          · simp [firstDifference, h]

theorem listingsBy_eq_none_iff (differ : Diff.Differ) (context : Nat) (scenario : String) (baseline current : List α) :
    listingsBy differ context scenario baseline current = none ↔
      List.Forall₂ (fun b c => Listed.same b c = true) baseline current := by
  rw [← firstDifference_eq_none_iff, listingsBy, Option.map_eq_none_iff]

theorem listingsBy_eq_none_iff_eq {differ : Diff.Differ} {context : Nat} {scenario : String} {baseline current : List α}
    (hsame : ∀ b ∈ baseline, ∀ c ∈ current, Listed.same b c = true ↔ b = c) :
    listingsBy differ context scenario baseline current = none ↔ baseline = current := by
  rw [listingsBy_eq_none_iff]
  constructor
  · intro h
    induction h with
    | nil => rfl
    | cons hitem _ ih =>
        rw [(hsame _ List.mem_cons_self _ List.mem_cons_self).mp hitem, ih fun b hb c hc =>
          hsame b (List.mem_cons_of_mem _ hb) c (List.mem_cons_of_mem _ hc)]
  · rintro rfl
    exact List.forall₂_same.mpr fun item hmem => (hsame item hmem item hmem).mpr rfl

/-- The items before a first difference are equal, and those at it are not. -/
theorem firstDifference_eq_some {baseline current : List α} {index : Nat}
    (hsame : ∀ b ∈ baseline, ∀ c ∈ current, Listed.same b c = true ↔ b = c)
    (h : firstDifference baseline current = some index) :
    baseline.take index = current.take index ∧ baseline[index]? ≠ current[index]? := by
  induction baseline generalizing current index with
  | nil =>
      cases current with
      | nil => cases h
      | cons c current =>
          obtain rfl : 0 = index := Option.some.inj h
          simp
  | cons b baseline ih =>
      cases current with
      | nil =>
          obtain rfl : 0 = index := Option.some.inj h
          simp
      | cons c current =>
          have hhead := hsame b List.mem_cons_self c List.mem_cons_self
          have htail : ∀ b' ∈ baseline, ∀ c' ∈ current, Listed.same b' c' = true ↔ b' = c' := fun b' hb c' hc =>
            hsame b' (List.mem_cons_of_mem b hb) c' (List.mem_cons_of_mem c hc)
          by_cases heq : b = c
          · obtain rfl := heq
            rw [firstDifference, if_pos (hhead.mpr rfl), Option.map_eq_some_iff] at h
            obtain ⟨before, hbefore, rfl⟩ := h
            obtain ⟨htake, hne⟩ := ih htail hbefore
            exact ⟨by rw [List.take_succ_cons, List.take_succ_cons, htake], by simpa using hne⟩
          · rw [firstDifference, if_neg fun h' => heq (hhead.mp h')] at h
            obtain rfl : 0 = index := Option.some.inj h
            exact ⟨rfl, by simpa using heq⟩

theorem length_eq_of_listingsBy {differ : Diff.Differ} {context : Nat} {scenario : String} {baseline current : List α}
    (h : listingsBy differ context scenario baseline current = none) : baseline.length = current.length :=
  ((listingsBy_eq_none_iff ..).mp h).length_eq

end Compare

theorem Listing.length_texts (listing : Listing) : listing.texts.length = listing.length := by
  cases listing <;> simp [texts, length]

theorem Listing.length_eq_of_compare {context : Nat} {scenario : Scenario} {baseline current : Listing}
    (h : baseline.compare context scenario current = none) : baseline.length = current.length := by
  unfold compare compareBy at h
  split at h
  · exact Compare.length_eq_of_listingsBy h
  · exact Compare.length_eq_of_listingsBy h
  · exact Compare.length_eq_of_listingsBy h
  · rw [← length_texts baseline, ← length_texts current]
    exact Compare.length_eq_of_listingsBy h

namespace Listing

variable {context : Nat} {scenario : Scenario}

theorem compare_tokens_eq_none_iff {baseline current : List Token} :
    (tokens baseline).compare context scenario (tokens current) = none ↔ baseline = current := by
  simp only [compare, compareBy, Compare.listingsBy_eq_none_iff, Listed.same, beq_iff_eq, List.forall₂_eq_eq_eq]

theorem compare_blobs_eq_none_iff {baseline current : List SignatureBlob} :
    (blobs baseline).compare context scenario (blobs current) = none ↔ baseline = current := by
  simp only [compare, compareBy, Compare.listingsBy_eq_none_iff, Listed.same, beq_iff_eq, List.forall₂_eq_eq_eq]

theorem compare_records_eq_none_iff {baseline current : List SignatureRecord} :
    (records baseline).compare context scenario (records current) = none ↔
      baseline.map (·.length) = current.map (·.length) := by
  simp only [compare, compareBy, Compare.listingsBy_eq_none_iff, Listed.same, beq_iff_eq]
  rw [← List.forall₂_eq_eq_eq, List.forall₂_map_left_iff, List.forall₂_map_right_iff]

theorem compare_self (listing : Listing) : listing.compare context scenario listing = none := by
  cases listing with
  | tokens items => rw [compare_tokens_eq_none_iff]
  | blobs items => rw [compare_blobs_eq_none_iff]
  | records items =>
      simp only [compare, compareBy, Compare.listingsBy_eq_none_iff, Listed.same, beq_iff_eq]
      exact List.forall₂_same.mpr fun _ _ => rfl

def Same (context : Nat) (scenario : Scenario) (baseline current : Except Failure Listing) : Prop :=
  ∃ b c, baseline = .ok b ∧ current = .ok c ∧ b.compare context scenario c = none

@[simp] theorem same_ok_iff {b c : Listing} :
    Same context scenario (.ok b) (.ok c) ↔ b.compare context scenario c = none := by
  simp [Same]

@[simp] theorem not_same_error_left (failure : Failure) (current : Except Failure Listing) :
    ¬ Same context scenario (.error failure) current := by
  simp [Same]

@[simp] theorem not_same_error_right (baseline : Except Failure Listing) (failure : Failure) :
    ¬ Same context scenario baseline (.error failure) := by
  simp [Same]

theorem Same.tokens_eq {baseline current : List Token}
    (h : Same context scenario (.ok (.tokens baseline)) (.ok (.tokens current))) : baseline = current := by
  rwa [same_ok_iff, compare_tokens_eq_none_iff] at h

end Listing

/-! ## First differences -/

/-- A divergence points at the first position at which two lists differ, shows what either has there and how long both
are. -/
structure Divergence.Marks {α : Type} (text : α → String) (divergence : Divergence) (baseline current : List α) :
    Prop where
  take_eq : baseline.take divergence.index = current.take divergence.index
  getElem?_ne : baseline[divergence.index]? ≠ current[divergence.index]?
  baseline_eq : divergence.baseline = baseline[divergence.index]?.map text
  current_eq : divergence.current = current[divergence.index]?.map text
  baselineLength_eq : divergence.baselineLength = baseline.length
  currentLength_eq : divergence.currentLength = current.length

theorem Divergence.Marks.map {α β : Type} {text : β → String} {f : α → β} {divergence : Divergence}
    {baseline current : List α} (h : divergence.Marks (fun a => text (f a)) baseline current)
    (hf : Function.Injective f) : divergence.Marks text (baseline.map f) (current.map f) where
  take_eq := by rw [← List.map_take, ← List.map_take, h.take_eq]
  getElem?_ne := by
    rw [List.getElem?_map, List.getElem?_map]
    exact fun heq => h.getElem?_ne (Option.map_injective hf heq)
  baseline_eq := by rw [h.baseline_eq, List.getElem?_map, Option.map_map, Function.comp_def]
  current_eq := by rw [h.current_eq, List.getElem?_map, Option.map_map, Function.comp_def]
  baselineLength_eq := by rw [h.baselineLength_eq, List.length_map]
  currentLength_eq := by rw [h.currentLength_eq, List.length_map]

theorem Compare.marks_of_listingsBy {α : Type} [Listed α] {differ : Diff.Differ} {context : Nat} {scenario : String}
    {baseline current : List α} {divergence : Divergence}
    (hsame : ∀ b ∈ baseline, ∀ c ∈ current, Listed.same b c = true ↔ b = c)
    (h : listingsBy differ context scenario baseline current = some divergence) :
    divergence.Marks Listed.text baseline current := by
  obtain ⟨index, hindex, rfl⟩ := Option.map_eq_some_iff.mp h
  obtain ⟨htake, hne⟩ := firstDifference_eq_some hsame hindex
  exact ⟨htake, hne, rfl, rfl, rfl, rfl⟩

namespace Listing

inductive Item where
  | token (item : Token)
  | record (item : SignatureRecord)
  | blob (item : SignatureBlob)
deriving DecidableEq

def Item.text : Item → String
  | token item => item.text
  | record item => item.text
  | blob item => item.text

def items : Listing → List Item
  | tokens items => items.map .token
  | records items => items.map .record
  | blobs items => items.map .blob

theorem length_items (listing : Listing) : listing.items.length = listing.length := by
  cases listing <;> simp [items, length]

/-- Two listings are of one sort, and their items count as equal only if they are. -/
inductive Exact : Listing → Listing → Prop where
  | tokens (baseline current) : Exact (tokens baseline) (tokens current)
  | blobs (baseline current) : Exact (blobs baseline) (blobs current)
  | records {baseline current} : (∀ b ∈ baseline, ∀ c ∈ current, b.address = c.address) →
      Exact (records baseline) (records current)

variable {context : Nat} {scenario : Scenario} {baseline current : Listing}

private theorem same_records_iff {b c : SignatureRecord} (h : b.address = c.address) :
    Listed.same b c = true ↔ b = c := by
  rcases b with ⟨address, length⟩
  rcases c with ⟨address', length'⟩
  obtain rfl : address = address' := h
  simp [Listed.same]

theorem Exact.compare_eq_none_iff (h : Exact baseline current) :
    baseline.compare context scenario current = none ↔ baseline = current := by
  cases h with
  | tokens b c => rw [compare_tokens_eq_none_iff, tokens.injEq]
  | blobs b c => rw [compare_blobs_eq_none_iff, blobs.injEq]
  | records h =>
      rw [records.injEq]
      exact Compare.listingsBy_eq_none_iff_eq fun b hb c hc => same_records_iff (h b hb c hc)

theorem Exact.marks (h : Exact baseline current) {divergence : Divergence}
    (hcompare : baseline.compare context scenario current = some divergence) :
    divergence.Marks Item.text baseline.items current.items := by
  cases h with
  | tokens b c =>
      have hmarks := Compare.marks_of_listingsBy (fun _ _ _ _ => beq_iff_eq) hcompare
      exact hmarks.map (f := Item.token) fun _ _ => Item.token.inj
  | blobs b c =>
      have hmarks := Compare.marks_of_listingsBy (fun _ _ _ _ => beq_iff_eq) hcompare
      exact hmarks.map (f := Item.blob) fun _ _ => Item.blob.inj
  | records h =>
      have hmarks := Compare.marks_of_listingsBy (fun b hb c hc => same_records_iff (h b hb c hc)) hcompare
      exact hmarks.map (f := Item.record) fun _ _ => Item.record.inj

end Listing

end MetaParity
