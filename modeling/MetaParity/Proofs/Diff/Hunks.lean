import MetaParity.Diff.Unified
import MetaParity.Proofs.Diff.Script

/-! # Hunks keep every change

Joining stretches to segments moves no line past another of its kind. Cutting the segments into hunks leaves all changed
lines in place and takes out unchanged ones only. -/

namespace MetaParity.Diff

variable {α : Type}

def Segment.marked : Mark → Segment α → List α
  | .unchanged, .same lines | .removed, .removed lines _ | .added, .added lines _ => lines
  | .removed, .replaced lost _ => lost
  | .added, .replaced _ gained => gained
  | _, _ => []

def markedIn (mark : Mark) (pieces : List (Piece α)) : List α :=
  pieces.flatMap fun piece => piece.segment.marked mark

@[simp] theorem markedIn_nil (mark : Mark) : markedIn mark ([] : List (Piece α)) = [] :=
  rfl

@[simp] theorem markedIn_cons (mark : Mark) (piece : Piece α) (pieces : List (Piece α)) :
    markedIn mark (piece :: pieces) = piece.segment.marked mark ++ markedIn mark pieces :=
  List.flatMap_cons

@[simp] theorem markedIn_append (mark : Mark) (pieces more : List (Piece α)) :
    markedIn mark (pieces ++ more) = markedIn mark pieces ++ markedIn mark more :=
  List.flatMap_append

theorem markedIn_flatten (mark : Mark) (hunks : List (Hunk α)) :
    markedIn mark hunks.flatten = hunks.flatMap (markedIn mark) := by
  induction hunks with
  | nil => rfl
  | cons hunk hunks ih => rw [List.flatten_cons, markedIn_append, ih, List.flatMap_cons]

/-! ## Segments -/

theorem marked_segments_cons (mark : Mark) (stretch : Stretch α) (script : Script α) :
    (segments (stretch :: script)).flatMap (Segment.marked mark) =
      stretch.marked mark ++ (segments script).flatMap (Segment.marked mark) := by
  rw [segments.eq_def]
  dsimp only
  generalize segments script = joined
  split <;> cases mark <;> simp [Stretch.marked, Segment.marked]

theorem marked_segments (mark : Mark) (script : Script α) :
    (segments script).flatMap (Segment.marked mark) = script.marked mark := by
  induction script with
  | nil => rfl
  | cons stretch script ih => rw [marked_segments_cons, ih, Script.marked_cons]

theorem markedIn_piecesFrom (mark : Mark) (old new : Nat) (pieces : List (Segment α)) :
    markedIn mark (piecesFrom old new pieces) = pieces.flatMap (Segment.marked mark) := by
  induction pieces generalizing old new with
  | nil => rfl
  | cons segment pieces ih => rw [piecesFrom, markedIn_cons, ih, List.flatMap_cons]

/-! ## Hunks -/

/-- Unchanged lines, each run of them with its places. -/
def unchangedPieces (runs : List (List α × Nat × Nat)) : List (Piece α) :=
  runs.map fun run => ⟨.same run.1, run.2.1, run.2.2⟩

theorem markedIn_unchangedPieces (runs : List (List α × Nat × Nat)) :
    markedIn .unchanged (unchangedPieces runs) = runs.flatMap Prod.fst := by
  rw [markedIn, unchangedPieces, List.flatMap_map]
  rfl

theorem marked_same_of_ne {mark : Mark} (hmark : mark ≠ .unchanged) (lines : List α) :
    (Segment.same lines).marked mark = [] := by
  cases mark with
  | unchanged => exact absurd rfl hmark
  | removed => rfl
  | added => rfl

theorem markedIn_unchangedPieces_of_ne {mark : Mark} (hmark : mark ≠ .unchanged) (runs : List (List α × Nat × Nat)) :
    markedIn mark (unchangedPieces runs) = [] := by
  rw [markedIn, unchangedPieces, List.flatMap_map]
  exact List.flatMap_eq_nil_iff.mpr fun run _ => marked_same_of_ne hmark run.1

/-- The first pieces are the second ones, except that of unchanged lines some or all are left out. -/
inductive Trims : List (Piece α) → List (Piece α) → Prop where
  | nil : Trims [] []
  | keep (piece) {shown pieces} : Trims shown pieces → Trims (piece :: shown) (piece :: pieces)
  | trim (runs) {lines old new shown pieces} : (runs.flatMap Prod.fst).Sublist lines → Trims shown pieces →
      Trims (unchangedPieces runs ++ shown) (⟨.same lines, old, new⟩ :: pieces)

theorem Trims.markedIn_eq {shown pieces : List (Piece α)} (h : Trims shown pieces) {mark : Mark}
    (hmark : mark ≠ .unchanged) : markedIn mark shown = markedIn mark pieces := by
  induction h with
  | nil => rfl
  | keep piece _ ih => rw [markedIn_cons, markedIn_cons, ih]
  | trim runs _ _ ih =>
      rw [markedIn_append, markedIn_unchangedPieces_of_ne hmark, markedIn_cons, marked_same_of_ne hmark, ih]

theorem Trims.markedIn_sublist {shown pieces : List (Piece α)} (h : Trims shown pieces) :
    (markedIn .unchanged shown).Sublist (markedIn .unchanged pieces) := by
  induction h with
  | nil => exact .slnil
  | keep piece _ ih =>
      rw [markedIn_cons, markedIn_cons]
      exact ih.append_left _
  | trim runs hruns _ ih =>
      rw [markedIn_append, markedIn_unchangedPieces, markedIn_cons]
      exact hruns.append ih

theorem take_append_drop_sublist {lines : List α} (h : 2 * hunkContext < lines.length) :
    (lines.take hunkContext ++ lines.drop (lines.length - hunkContext)).Sublist lines := by
  have hdrop : (lines.drop (lines.length - hunkContext)).Sublist (lines.drop hunkContext) :=
    List.drop_sublist_drop_left lines (by omega)
  have hboth := hdrop.append_left (lines.take hunkContext)
  rwa [List.take_append_drop] at hboth

/-- The hunks show the pieces of the open one and, trimmed, those that follow. -/
theorem exists_trims_hunksFrom (shown pieces : List (Piece α)) :
    ∃ more, (hunksFrom shown pieces).flatten = shown.reverse ++ more ∧ Trims more pieces := by
  induction pieces generalizing shown with
  | nil =>
      refine ⟨[], ?_, .nil⟩
      rw [hunksFrom]
      cases shown <;> simp
  | cons piece rest ih =>
      -- Only unchanged lines end a hunk; every other piece, and a short run of unchanged lines, joins the open one.
      have hkeep : ∃ more, (hunksFrom (piece :: shown) rest).flatten = shown.reverse ++ more ∧
          Trims more (piece :: rest) := by
        obtain ⟨more, hflatten, htrims⟩ := ih (piece :: shown)
        refine ⟨piece :: more, ?_, .keep piece htrims⟩
        rw [hflatten, List.reverse_cons, List.append_assoc, List.singleton_append]
      rcases piece with ⟨segment, old, new⟩
      cases segment with
      | removed | added | replaced => exact hkeep
      | same lines =>
          rw [hunksFrom]
          split_ifs with hshown hrest hrest hlong
          · obtain rfl := List.isEmpty_iff.mp hshown
            obtain rfl := List.isEmpty_iff.mp hrest
            exact ⟨[], rfl, .trim [] (List.nil_sublist lines) .nil⟩
          · obtain rfl := List.isEmpty_iff.mp hshown
            obtain ⟨more, hflatten, htrims⟩ := ih [leading lines old new]
            exact ⟨_ :: more, hflatten,
              .trim [(lines.drop (lines.length - hunkContext), _, _)] (by simp [List.drop_sublist]) htrims⟩
          · obtain rfl := List.isEmpty_iff.mp hrest
            refine ⟨[trailing lines old new], ?_, .trim [(lines.take hunkContext, _, _)]
              (by simp [List.take_sublist]) .nil⟩
            simp
          · obtain ⟨more, hflatten, htrims⟩ := ih [leading lines old new]
            refine ⟨trailing lines old new :: leading lines old new :: more, ?_,
              .trim [(lines.take hunkContext, _, _), (lines.drop (lines.length - hunkContext), _, _)]
                (by simpa using take_append_drop_sublist hlong) htrims⟩
            simp [hflatten]
          · exact hkeep

theorem trims_hunks (script : Script α) :
    Trims (hunks script).flatten (piecesFrom 0 0 (segments script)) := by
  obtain ⟨more, hflatten, htrims⟩ := exists_trims_hunksFrom [] (piecesFrom 0 0 (segments script))
  rw [hunks, hflatten]
  exact htrims

theorem markedIn_hunks {mark : Mark} (hmark : mark ≠ .unchanged) (script : Script α) :
    markedIn mark (hunks script).flatten = script.marked mark := by
  rw [(trims_hunks script).markedIn_eq hmark, markedIn_piecesFrom, marked_segments]

theorem markedIn_hunks_sublist (script : Script α) :
    (markedIn .unchanged (hunks script).flatten).Sublist (script.marked .unchanged) := by
  rw [← marked_segments, ← markedIn_piecesFrom .unchanged 0 0]
  exact (trims_hunks script).markedIn_sublist

end MetaParity.Diff
