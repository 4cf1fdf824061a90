import MetaParity.Proofs.Compare.Exactness
import MetaParity.Proofs.Diff.Lines
import Mathlib.Data.List.Permutation

/-! # What the diff of a comparison shows

Every line of a diff bears the position of its item, so lines at different positions are different, and a shortest
script keeps exactly the lines of positions at which the listings agree. The diff then marks as removed and as added
the items at the other positions around the first difference, and nothing else. -/

namespace MetaParity

namespace Compare

variable {α : Type} [Listed α]

/-! ## Lines and positions -/

/-- A number ends where the bracket behind it stands. -/
theorem numbered_inj {i j : Nat} {text text' : String}
    (h : "[" ++ Nat.repr i ++ "] " ++ text ++ "\n" = "[" ++ Nat.repr j ++ "] " ++ text' ++ "\n") :
    i = j ∧ text = text' := by
  have hlists : (Nat.repr i).toList ++ ']' :: (' ' :: text.toList ++ ['\n']) =
      (Nat.repr j).toList ++ ']' :: (' ' :: text'.toList ++ ['\n']) := by
    simpa using congrArg String.toList h
  -- The bracket is no digit, so the digits in front are those of the number.
  have htake (n : Nat) (rest : List Char) :
      ((Nat.repr n).toList ++ ']' :: rest).takeWhile Char.isDigit = (Nat.repr n).toList := by
    rw [List.takeWhile_append_of_pos fun _ => Decimal.isDigit_of_mem_repr, List.takeWhile_cons_of_neg (by decide),
      List.append_nil]
  have hdigits := congrArg (List.takeWhile Char.isDigit) hlists
  rw [htake, htake] at hdigits
  rw [hdigits] at hlists
  have hrest := List.append_cancel_left hlists
  refine ⟨Decimal.repr_injective hdigits, String.toList_inj.mp ?_⟩
  simpa using hrest

theorem lineAt_eq_some_iff {items : List α} {position : Nat} {line : String} :
    lineAt items position = some line ↔
      ∃ item, items[position]? = some item ∧ "[" ++ Nat.repr position ++ "] " ++ Listed.text item ++ "\n" = line :=
  Option.map_eq_some_iff

theorem position_eq_of_lineAt {items others : List α} {i j : Nat} {line : String} (h : lineAt items i = some line)
    (h' : lineAt others j = some line) : i = j := by
  obtain ⟨item, -, rfl⟩ := lineAt_eq_some_iff.mp h
  obtain ⟨other, -, heq⟩ := lineAt_eq_some_iff.mp h'
  exact (numbered_inj heq.symm).1

theorem isLine_lineAt {items : List α} (hbreaks : ∀ item ∈ items, Diff.Unbroken (Listed.text item)) {position : Nat}
    {line : String} (h : lineAt items position = some line) : Diff.IsLine line := by
  obtain ⟨item, hitem, rfl⟩ := lineAt_eq_some_iff.mp h
  have hopen : Diff.Unbroken "[" := by decide
  have hclose : Diff.Unbroken "] " := by decide
  exact ⟨_, ((hopen.append (Diff.unbroken_repr position)).append hclose).append
    (hbreaks item (List.mem_of_getElem? hitem)), rfl⟩

theorem differsAt_eq_false_iff {baseline current : List α}
    (hsame : ∀ b ∈ baseline, ∀ c ∈ current, Listed.text b = Listed.text c ↔ Listed.same b c = true) (position : Nat) :
    differsAt baseline current position = false ↔ lineAt baseline position = lineAt current position := by
  rw [differsAt, lineAt, lineAt]
  cases hb : baseline[position]? with
  | none => cases hc : current[position]? <;> simp
  | some b =>
      cases hc : current[position]? with
      | none => simp
      | some c =>
          rw [Option.map_some, Option.map_some, Option.some_inj, Bool.not_eq_false',
            ← hsame b (List.mem_of_getElem? hb) c (List.mem_of_getElem? hc)]
          exact ⟨fun h => by rw [h], fun h => (numbered_inj h).2⟩

/-! ## Excerpts -/

variable {index context : Nat} {items others : List α}

theorem isLine_excerpt (hbreaks : ∀ item ∈ items, Diff.Unbroken (Listed.text item)) :
    ∀ line ∈ excerpt index context items, Diff.IsLine line := by
  intro line hmem
  obtain ⟨position, -, hline⟩ := List.mem_filterMap.mp hmem
  exact isLine_lineAt hbreaks hline

/-- A line at a position is in the excerpt of another listing if that listing has it at the same position. -/
theorem mem_excerpt_iff {position : Nat} (hposition : position ∈ around index context) {line : String}
    (hline : lineAt items position = some line) :
    line ∈ excerpt index context others ↔ lineAt items position = lineAt others position := by
  rw [excerpt, List.mem_filterMap, hline]
  constructor
  · rintro ⟨other, -, hother⟩
    obtain rfl := position_eq_of_lineAt hline hother
    exact hother.symm
  · exact fun h => ⟨position, hposition, h.symm⟩

theorem filter_excerpt {p : String → Bool} {q : Nat → Bool}
    (h : ∀ position ∈ around index context, ∀ line, lineAt items position = some line → p line = q position) :
    (excerpt index context items).filter p = ((around index context).filter q).filterMap (lineAt items) := by
  rw [excerpt, List.filter_filterMap, List.filterMap_filter]
  apply List.filterMap_congr
  intro position hposition
  cases hline : lineAt items position with
  | none => simp
  | some line => rw [Option.filter_some, h position hposition line hline]

theorem nodup_filterMap_lineAt {positions : List Nat} (h : positions.Nodup) :
    (positions.filterMap (lineAt items)).Nodup :=
  h.filterMap fun _ _ _ hline hline' => position_eq_of_lineAt hline hline'

theorem ne_of_mem_filterMap_lineAt {positions more : List Nat}
    (h : ∀ position ∈ positions, position ∈ more → lineAt items position ≠ lineAt others position) :
    ∀ a ∈ positions.filterMap (lineAt items), ∀ b ∈ more.filterMap (lineAt others), a ≠ b := by
  rintro line hline _ hline' rfl
  obtain ⟨position, hposition, heq⟩ := List.mem_filterMap.mp hline
  obtain ⟨other, hother, heq'⟩ := List.mem_filterMap.mp hline'
  obtain rfl := position_eq_of_lineAt heq heq'
  exact h position hposition hother (heq.trans heq'.symm)

section Differing

variable {differs : Nat → Bool}
  (hagree : ∀ position, differs position = false ↔ lineAt items position = lineAt others position)

include hagree

theorem filter_mem_excerpt :
    (excerpt index context items).filter (· ∈ excerpt index context others) =
      ((around index context).filter fun position => !differs position).filterMap (lineAt items) := by
  refine filter_excerpt fun position hposition line hline => ?_
  rw [Bool.eq_iff_iff, decide_eq_true_iff, mem_excerpt_iff hposition hline, Bool.not_eq_true', hagree]

theorem filter_not_mem_excerpt :
    (excerpt index context items).filter (· ∉ excerpt index context others) =
      ((around index context).filter fun position => differs position).filterMap (lineAt items) := by
  refine filter_excerpt fun position hposition line hline => ?_
  rw [Bool.eq_iff_iff, decide_eq_true_iff, mem_excerpt_iff hposition hline, ← Bool.not_eq_false, hagree]

theorem filterMap_lineAt_comm {positions : List Nat} (h : ∀ position ∈ positions, differs position = false) :
    positions.filterMap (lineAt items) = positions.filterMap (lineAt others) :=
  List.filterMap_congr fun position hmem => (hagree position).mp (h position hmem)

theorem filter_mem_excerpt_comm :
    (excerpt index context items).filter (· ∈ excerpt index context others) =
      (excerpt index context others).filter (· ∈ excerpt index context items) := by
  rw [filter_mem_excerpt hagree, filter_mem_excerpt fun position => (hagree position).trans eq_comm]
  exact filterMap_lineAt_comm hagree fun position hmem => by simpa using (List.mem_filter.mp hmem).2

/-- No line stands twice among the differing lines of both listings and the lines that both have. -/
theorem nodup_lines {positions kept : List Nat} (hpositions : positions.Nodup)
    (hkept : kept.Sublist (positions.filter fun position => !differs position)) :
    ((positions.filter fun position => differs position).filterMap (lineAt items) ++
      (positions.filter fun position => differs position).filterMap (lineAt others) ++
      kept.filterMap (lineAt items)).Nodup := by
  have hchanged := hpositions.filter fun position => differs position
  have hdiffers : ∀ position ∈ positions.filter (fun position => differs position), differs position = true :=
    fun position hmem => (List.mem_filter.mp hmem).2
  have hagrees : ∀ position ∈ kept, differs position = false := fun position hmem => by
    simpa using (List.mem_filter.mp (hkept.subset hmem)).2
  have hchangedApart : ∀ a ∈ (positions.filter fun position => differs position).filterMap (lineAt items),
      ∀ b ∈ (positions.filter fun position => differs position).filterMap (lineAt others), a ≠ b := by
    refine ne_of_mem_filterMap_lineAt fun position hmem _ heq => ?_
    simpa [hdiffers position hmem] using (hagree position).mpr heq
  have hkeptApart {listing : List α} :
      ∀ a ∈ (positions.filter fun position => differs position).filterMap (lineAt listing),
        ∀ b ∈ kept.filterMap (lineAt items), a ≠ b := by
    refine ne_of_mem_filterMap_lineAt fun position hmem hmem' => ?_
    simpa [hdiffers position hmem] using hagrees position hmem'
  rw [List.nodup_append, List.nodup_append, List.forall_mem_append]
  exact ⟨⟨nodup_filterMap_lineAt hchanged, nodup_filterMap_lineAt hchanged, hchangedApart⟩,
    nodup_filterMap_lineAt (hkept.nodup (hpositions.filter _)), hkeptApart, hkeptApart⟩

end Differing

/-! ## Diffs -/

theorem markedLines_unified_excerpt {differ : Diff.Differ} {baseline current : List α}
    (hbaseline : ∀ item ∈ baseline, Diff.Unbroken (Listed.text item))
    (hcurrent : ∀ item ∈ current, Diff.Unbroken (Listed.text item))
    (hdiffer : (differ (excerpt index context baseline) (excerpt index context current)).Shortest
      (excerpt index context baseline) (excerpt index context current)) (mark : Diff.Mark) :
    Diff.markedLines mark (Diff.unified differ (String.join (excerpt index context baseline))
        (String.join (excerpt index context current))) =
      Diff.markedIn mark
        (Diff.hunks (differ (excerpt index context baseline) (excerpt index context current))).flatten := by
  have hold : Diff.lines (String.join (excerpt index context baseline)) = excerpt index context baseline :=
    Diff.lines_join (isLine_excerpt hbaseline)
  have hnew : Diff.lines (String.join (excerpt index context current)) = excerpt index context current :=
    Diff.lines_join (isLine_excerpt hcurrent)
  rw [Diff.markedLines_unified, hold, hnew]
  rw [hold, hnew]
  intro mark line hmem
  rcases Diff.Script.mem_of_mem_marked hmem with hmem | hmem
  · rw [hdiffer.old_eq] at hmem
    exact isLine_excerpt hbaseline line hmem
  · rw [hdiffer.new_eq] at hmem
    exact isLine_excerpt hcurrent line hmem

/-- A diff shows as removed and as added lines the items at the given positions, and as unchanged lines only items on
which the listings agree. -/
structure ShowsDifferences (diff : String) (positions : List Nat) (baseline current : List α) : Prop where
  removed_eq : Diff.markedLines .removed diff =
    (positions.filter fun position => differsAt baseline current position).filterMap (lineAt baseline)
  added_eq : Diff.markedLines .added diff =
    (positions.filter fun position => differsAt baseline current position).filterMap (lineAt current)
  exists_unchanged : ∃ kept : List Nat,
    kept.Sublist (positions.filter fun position => !differsAt baseline current position) ∧
    Diff.markedLines .unchanged diff = kept.filterMap (lineAt baseline) ∧
    Diff.markedLines .unchanged diff = kept.filterMap (lineAt current)
  nodup : (Diff.markedLines .removed diff ++ Diff.markedLines .added diff ++ Diff.markedLines .unchanged diff).Nodup

theorem showsDifferences_unified {differ : Diff.Differ} {baseline current : List α}
    (hbaseline : ∀ item ∈ baseline, Diff.Unbroken (Listed.text item))
    (hcurrent : ∀ item ∈ current, Diff.Unbroken (Listed.text item))
    (hsame : ∀ b ∈ baseline, ∀ c ∈ current, Listed.text b = Listed.text c ↔ Listed.same b c = true)
    (hdiffer : (differ (excerpt index context baseline) (excerpt index context current)).Shortest
      (excerpt index context baseline) (excerpt index context current)) :
    ShowsDifferences (Diff.unified differ (String.join (excerpt index context baseline))
      (String.join (excerpt index context current))) (around index context) baseline current := by
  have hagree := differsAt_eq_false_iff hsame
  have hlines := markedLines_unified_excerpt hbaseline hcurrent hdiffer
  have hshared : (excerpt index context baseline).filter (· ∈ excerpt index context current) =
      (excerpt index context current).filter (· ∈ excerpt index context baseline) := filter_mem_excerpt_comm hagree
  have hremoved := (hlines .removed).trans (Diff.markedIn_hunks (by decide) _)
  rw [hdiffer.marked_removed hshared, filter_not_mem_excerpt hagree] at hremoved
  have hadded := (hlines .added).trans (Diff.markedIn_hunks (by decide) _)
  rw [hdiffer.marked_added hshared, filter_not_mem_excerpt fun position => (hagree position).trans eq_comm] at hadded
  have hunchanged := Diff.markedIn_hunks_sublist
    (differ (excerpt index context baseline) (excerpt index context current))
  rw [← hlines .unchanged, hdiffer.marked_unchanged hshared, filter_mem_excerpt hagree,
    List.sublist_filterMap_iff] at hunchanged
  obtain ⟨kept, hkept, hunchanged⟩ := hunchanged
  have hagrees : ∀ position ∈ kept, differsAt baseline current position = false := fun position hmem => by
    simpa using (List.mem_filter.mp (hkept.subset hmem)).2
  refine ⟨hremoved, hadded, ⟨kept, hkept, hunchanged, hunchanged.trans (filterMap_lineAt_comm hagree hagrees)⟩, ?_⟩
  rw [hremoved, hadded, hunchanged]
  exact nodup_lines hagree (pairwise_around index context).nodup hkept

theorem ShowsDifferences.exists_changed {diff : String} {baseline current : List α}
    (h : ShowsDifferences diff (around index context) baseline current)
    (hdiffers : differsAt baseline current index = true) :
    (∃ line ∈ Diff.markedLines .removed diff, lineAt baseline index = some line) ∨
      ∃ line ∈ Diff.markedLines .added diff, lineAt current index = some line := by
  have hmem : index ∈ (around index context).filter fun position => differsAt baseline current position :=
    List.mem_filter.mpr ⟨mem_around.mpr ⟨Nat.le_add_right index context, Nat.le_add_right index context⟩, hdiffers⟩
  have hshown {items : List α} (hlt : index < items.length) :
      ∃ line ∈ ((around index context).filter fun position => differsAt baseline current position).filterMap
        (lineAt items), lineAt items index = some line := by
    have hline := lineAt_eq_some_iff.mpr ⟨_, List.getElem?_eq_getElem hlt, rfl⟩
    exact ⟨_, List.mem_filterMap.mpr ⟨index, hmem, hline⟩, hline⟩
  rw [h.removed_eq, h.added_eq]
  exact (lt_length_of_differsAt hdiffers).imp hshown hshown

/-- The diff of a divergence shows exactly the positions around it at which the listings differ, its own among them. Of
the differ this asks only that its script for the two excerpts is shortest. -/
theorem unifiedDiff_showsDifferences {differ : Diff.Differ} {scenario : String} {baseline current : List α}
    {divergence : Divergence} (hbreaks : ∀ item ∈ baseline ++ current, Diff.Unbroken (Listed.text item))
    (hsame : ∀ b ∈ baseline, ∀ c ∈ current, Listed.text b = Listed.text c ↔ Listed.same b c = true)
    (hbaseline : baseline.length ≤ lastPosition) (hcurrent : current.length ≤ lastPosition)
    (h : listingsBy differ context scenario baseline current = some divergence)
    (hdiffer : (differ (excerpt divergence.index context baseline) (excerpt divergence.index context current)).Shortest
      (excerpt divergence.index context baseline) (excerpt divergence.index context current)) :
    (around divergence.index context).Pairwise (· < ·) ∧
    ShowsDifferences divergence.unifiedDiff (around divergence.index context) baseline current ∧
    ((∃ line ∈ Diff.markedLines .removed divergence.unifiedDiff, lineAt baseline divergence.index = some line) ∨
      ∃ line ∈ Diff.markedLines .added divergence.unifiedDiff, lineAt current divergence.index = some line) := by
  rw [List.forall_mem_append] at hbreaks
  have hshows : ShowsDifferences divergence.unifiedDiff (around divergence.index context) baseline current := by
    rw [(excerpts_of_listingsBy hbaseline hcurrent h).unifiedDiff_eq]
    exact showsDifferences_unified hbreaks.1 hbreaks.2 hsame hdiffer
  exact ⟨pairwise_around _ _, hshows, hshows.exists_changed (locates_of_listingsBy h).differsAt_index⟩

/-- Three changes, one of them past the end of the first listing, in two hunks. -/
theorem unifiedDiff_showsDifferences_hunks :
    let baseline := ["a", "b", "c", "c", "c", "c", "c", "c", "c", "d"]
    let current := ["b", "b", "c", "c", "c", "c", "c", "c", "c", "e", "d"]
    (∀ item ∈ baseline ++ current, Diff.Unbroken (Listed.text item)) ∧
    (∀ b ∈ baseline, ∀ c ∈ current, Listed.text b = Listed.text c ↔ Listed.same b c = true) ∧
    baseline.length ≤ lastPosition ∧ current.length ≤ lastPosition ∧
    ∃ divergence, listings 10 "type_refs" baseline current = some divergence ∧
      (Diff.standardDiffer (excerpt divergence.index 10 baseline) (excerpt divergence.index 10 current)).Shortest
        (excerpt divergence.index 10 baseline) (excerpt divergence.index 10 current) ∧
      Diff.markedLines .removed divergence.unifiedDiff = ["[0] a\n", "[9] d\n"] ∧
      Diff.markedLines .added divergence.unifiedDiff = ["[0] b\n", "[9] e\n", "[10] d\n"] ∧
      ∃ kept : List Nat, kept.Sublist [1, 2, 3, 4, 5, 6, 7, 8] ∧
        Diff.markedLines .unchanged divergence.unifiedDiff = kept.filterMap (lineAt baseline) := by
  intro baseline current
  have hbreaks : ∀ item ∈ baseline ++ current, Diff.Unbroken (Listed.text item) := by decide
  have hsame : ∀ b ∈ baseline, ∀ c ∈ current, Listed.text b = Listed.text c ↔ Listed.same b c = true := by decide
  have hbaseline : baseline.length ≤ lastPosition := by decide
  have hcurrent : current.length ≤ lastPosition := by decide
  obtain ⟨divergence, hfound, hindex⟩ : ∃ divergence,
      listings 10 "type_refs" baseline current = some divergence ∧ divergence.index = 0 := ⟨_, rfl, rfl⟩
  have hshortest : (Diff.standardDiffer (excerpt divergence.index 10 baseline)
      (excerpt divergence.index 10 current)).Shortest (excerpt divergence.index 10 baseline)
      (excerpt divergence.index 10 current) := by
    rw [hindex]
    exact .of_marked_unchanged (by cbv) (by cbv) (by cbv)
  obtain ⟨-, hshows, -⟩ := unifiedDiff_showsDifferences hbreaks hsame hbaseline hcurrent hfound hshortest
  obtain ⟨kept, hkept, hunchanged, -⟩ := hshows.exists_unchanged
  have hremoved := hshows.removed_eq
  have hadded := hshows.added_eq
  rw [hindex] at hkept hremoved hadded
  exact ⟨hbreaks, hsame, hbaseline, hcurrent, divergence, hfound, hshortest, hremoved.trans (by cbv),
    hadded.trans (by cbv), kept, hkept, hunchanged⟩

end Compare

end MetaParity
