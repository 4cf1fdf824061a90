import MetaParity.Proofs.Compare.Shown
import MetaParity.Proofs.Compare.Window
import MetaParity.Proofs.Run.Mirror

/-! # What a comparison finds

A comparison finds no difference exactly between listings that are equal item by item, and otherwise the first position
at which they differ, whichever listing comes first. How many items it shows around that position changes nothing but
the diff, which is of exactly these items. What it shows for the two sides of listings of one sort is never the same.
-/

namespace MetaParity

/-- A divergence is at the first position at which two listings differ, and tells what either has there and how long
both are. -/
structure Divergence.Locates {α : Type} [Listed α] (divergence : Divergence) (scenario : String)
    (baseline current : List α) : Prop where
  scenario_eq : divergence.scenario = scenario
  differsAt_index : Compare.differsAt baseline current divergence.index = true
  not_differsAt : ∀ position < divergence.index, Compare.differsAt baseline current position = false
  baseline_eq : divergence.baseline = baseline[divergence.index]?.map Listed.text
  current_eq : divergence.current = current[divergence.index]?.map Listed.text
  baseline_isSome_iff : divergence.baseline.isSome = true ↔ divergence.index < baseline.length
  current_isSome_iff : divergence.current.isSome = true ↔ divergence.index < current.length
  isSome_or_isSome : divergence.baseline.isSome = true ∨ divergence.current.isSome = true
  baselineLength_eq : divergence.baselineLength = baseline.length
  currentLength_eq : divergence.currentLength = current.length

/-- The diff of a divergence is of the items at most `context` positions away from it; the ends of its window are
positions in order. -/
structure Divergence.Excerpts {α : Type} [Listed α] (divergence : Divergence) (differ : Diff.Differ) (context : Nat)
    (baseline current : List α) : Prop where
  start_le_stop :
    divergence.index - context ≤ Compare.addWithin (Compare.addWithin divergence.index context) 1
  stop_le_lastPosition : Compare.addWithin (Compare.addWithin divergence.index context) 1 ≤ Compare.lastPosition
  unifiedDiff_eq : divergence.unifiedDiff =
    Diff.unified differ (String.join (Compare.excerpt divergence.index context baseline))
      (String.join (Compare.excerpt divergence.index context current))

namespace Compare

variable {α : Type} [Listed α] {differ : Diff.Differ} {context : Nat} {scenario : String} {baseline current : List α}
  {divergence : Divergence}

theorem listingsBy_eq_none_iff_getElem :
    listingsBy differ context scenario baseline current = none ↔
      baseline.length = current.length ∧
        ∀ (position : Nat) (hb : position < baseline.length) (hc : position < current.length),
          Listed.same baseline[position] current[position] = true := by
  rw [listingsBy_eq_none_iff, List.forall₂_iff_get]
  simp only [List.get_eq_getElem]

theorem locates_of_listingsBy (h : listingsBy differ context scenario baseline current = some divergence) :
    divergence.Locates scenario baseline current := by
  obtain ⟨index, hindex, rfl⟩ := Option.map_eq_some_iff.mp h
  obtain ⟨hdiffers, hfirst⟩ := differsAt_firstDifference hindex
  have hpresent (items : List α) : (items[index]?.map Listed.text).isSome = true ↔ index < items.length := by simp
  exact ⟨rfl, hdiffers, hfirst, rfl, rfl, hpresent baseline, hpresent current,
    (lt_length_of_differsAt hdiffers).imp (hpresent baseline).mpr (hpresent current).mpr, rfl, rfl⟩

theorem excerpts_of_listingsBy (hbaseline : baseline.length ≤ lastPosition) (hcurrent : current.length ≤ lastPosition)
    (h : listingsBy differ context scenario baseline current = some divergence) :
    divergence.Excerpts differ context baseline current := by
  obtain ⟨index, hindex, rfl⟩ := Option.map_eq_some_iff.mp h
  have hlength := lt_length_of_differsAt (differsAt_firstDifference hindex).1
  refine ⟨?_, Nat.min_le_right _ _, ?_⟩
  · show index - context ≤ addWithin (addWithin index context) 1
    unfold addWithin
    omega
  · rw [← window_eq_excerpt hbaseline, ← window_eq_excerpt hcurrent]

/-- Another context makes another diff, and changes nothing else. -/
theorem listingsBy_of_context (h : listingsBy differ context scenario baseline current = some divergence)
    (other : Nat) :
    ∃ unifiedDiff, listingsBy differ other scenario baseline current = some { divergence with unifiedDiff } := by
  obtain ⟨index, hindex, rfl⟩ := Option.map_eq_some_iff.mp h
  rw [listingsBy, hindex]
  exact ⟨_, rfl⟩

theorem exists_mirrored (hsame : ∀ b c : α, Listed.same b c = Listed.same c b)
    (h : listingsBy differ context scenario baseline current = some divergence) :
    ∃ mirrored, listingsBy differ context scenario current baseline = some mirrored ∧ divergence.Mirrors mirrored := by
  have hmirrors := listingsBy_mirrors hsame differ context scenario baseline current
  rw [h] at hmirrors
  generalize listingsBy differ context scenario current baseline = answer at hmirrors
  cases hmirrors with
  | some hmirrors => exact ⟨_, rfl, hmirrors⟩

theorem shown_ne_of_locates [Listed.Telling α] (h : divergence.Locates scenario baseline current) :
    divergence.baseline.getD "<end>" ≠ divergence.current.getD "<end>" := by
  have hdiffers := h.differsAt_index
  rw [differsAt] at hdiffers
  rw [h.baseline_eq, h.current_eq]
  cases hb : baseline[divergence.index]? with
  | none =>
      cases hc : current[divergence.index]? with
      | none => simp [hb, hc] at hdiffers
      | some c => exact (Listed.Telling.text_ne_end c).symm
  | some b =>
      cases hc : current[divergence.index]? with
      | none => exact Listed.Telling.text_ne_end b
      | some c =>
          intro htext
          have hsame : Listed.same b c = true := Listed.Telling.same_of_text htext
          simp [hb, hc, hsame] at hdiffers

end Compare

namespace Listing

inductive SameSort : Listing → Listing → Prop where
  | tokens (baseline current) : SameSort (tokens baseline) (tokens current)
  | records (baseline current) : SameSort (records baseline) (records current)
  | blobs (baseline current) : SameSort (blobs baseline) (blobs current)

theorem shown_ne_of_compare {context : Nat} {scenario : Scenario} {baseline current : Listing} {divergence : Divergence}
    (hsort : baseline.SameSort current) (h : baseline.compare context scenario current = some divergence) :
    divergence.baseline.getD "<end>" ≠ divergence.current.getD "<end>" := by
  cases hsort with
  | tokens | records | blobs => exact Compare.shown_ne_of_locates (Compare.locates_of_listingsBy h)

end Listing

/-- A comparison of listings with a symmetric equality is exact, the same whichever comes first, and shows what it has
found. -/
theorem Compare.listings_exact :
    (∀ {α : Type} [Listed α], (∀ b c : α, Listed.same b c = Listed.same c b) →
      ∀ (context : Nat) (scenario : String) (baseline current : List α),
        baseline.length ≤ lastPosition → current.length ≤ lastPosition →
          (listings context scenario baseline current = none ↔
            baseline.length = current.length ∧
              ∀ (position : Nat) (hb : position < baseline.length) (hc : position < current.length),
                Listed.same baseline[position] current[position] = true) ∧
          ∀ divergence, listings context scenario baseline current = some divergence →
            divergence.Locates scenario baseline current ∧
            divergence.Excerpts Diff.standardDiffer context baseline current ∧
            (∃ mirrored, listings context scenario current baseline = some mirrored ∧ divergence.Mirrors mirrored) ∧
            ∀ other, ∃ unifiedDiff,
              listings other scenario baseline current = some { divergence with unifiedDiff }) ∧
    ∀ (context : Nat) (scenario : Scenario) (baseline current : Listing), baseline.SameSort current →
      ∀ divergence, baseline.compare context scenario current = some divergence →
        divergence.baseline ≠ divergence.current ∧
        divergence.baseline.getD "<end>" ≠ divergence.current.getD "<end>" := by
  refine ⟨fun {α} _ hsame context scenario baseline current hbaseline hcurrent => ?_,
    fun context scenario baseline current hsort divergence h => ?_⟩
  · refine ⟨listingsBy_eq_none_iff_getElem, fun divergence h => ?_⟩
    exact ⟨locates_of_listingsBy h, excerpts_of_listingsBy hbaseline hcurrent h, exists_mirrored hsame h,
      listingsBy_of_context h⟩
  · have hshown := Listing.shown_ne_of_compare hsort h
    exact ⟨fun heq => hshown (by rw [heq]), hshown⟩

/-- Records whose addresses differ agree as far as the second listing goes. -/
theorem Compare.listings_exact_prefix :
    let baseline : List SignatureRecord := [⟨0x10, 4⟩, ⟨0x20, 6⟩, ⟨0x30, 6⟩]
    let current : List SignatureRecord := [⟨0x90, 4⟩, ⟨0x20, 6⟩]
    (∀ b c : SignatureRecord, Listed.same b c = Listed.same c b) ∧
    baseline.length ≤ lastPosition ∧ current.length ≤ lastPosition ∧
    ∃ divergence, listings lastPosition Scenario.sigFromToken.name baseline current = some divergence ∧
      divergence.index = 2 ∧ divergence.baseline = some "len=6" ∧ divergence.current = none ∧
      divergence.Locates Scenario.sigFromToken.name baseline current ∧
      divergence.Excerpts Diff.standardDiffer lastPosition baseline current ∧
      (∃ mirrored, listings lastPosition Scenario.sigFromToken.name current baseline = some mirrored ∧
        mirrored.index = 2) ∧
      (Listing.records baseline).SameSort (.records current) ∧
      divergence.baseline.getD "<end>" ≠ divergence.current.getD "<end>" := by
  intro baseline current
  have hsame : ∀ b c : SignatureRecord, Listed.same b c = Listed.same c b := fun _ _ => BEq.comm
  have hbaseline : baseline.length ≤ lastPosition := by decide
  have hcurrent : current.length ≤ lastPosition := by decide
  have hsort : (Listing.records baseline).SameSort (.records current) := .records baseline current
  obtain ⟨divergence, hfound, hindex, hb, hc⟩ : ∃ divergence,
      listings lastPosition Scenario.sigFromToken.name baseline current = some divergence ∧ divergence.index = 2 ∧
        divergence.baseline = some "len=6" ∧ divergence.current = none :=
    ⟨_, rfl, rfl, rfl, rfl⟩
  obtain ⟨hlocates, hexcerpts, ⟨mirrored, hmirrored, hmirrors⟩, -⟩ :=
    (listings_exact.1 hsame lastPosition Scenario.sigFromToken.name baseline current hbaseline hcurrent).2
      divergence hfound
  have hshown := listings_exact.2 lastPosition .sigFromToken _ _ hsort divergence hfound
  exact ⟨hsame, hbaseline, hcurrent, divergence, hfound, hindex, hb, hc, hlocates, hexcerpts,
    ⟨mirrored, hmirrored, hmirrors.index_eq.trans hindex⟩, hsort, hshown.2⟩

end MetaParity
