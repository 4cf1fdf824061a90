import MetaParity.Proofs.Diff.Hunks
import MetaParity.Proofs.Digits

/-! # Lines of a unified diff

Lines that end where they should are read back from the text that they make up. So the lines behind a mark in a unified
diff are those that its hunks hold of that kind. -/

namespace MetaParity.Diff

variable {α : Type}

def Unbroken (text : String) : Prop :=
  ∀ c ∈ text.toList, c ≠ '\n' ∧ c ≠ '\r'

instance (text : String) : Decidable (Unbroken text) :=
  List.decidableBAll (fun c => c ≠ '\n' ∧ c ≠ '\r') text.toList

/-- A text that ends in its only line break. -/
def IsLine (line : String) : Prop :=
  ∃ text, Unbroken text ∧ line = text ++ "\n"

theorem Unbroken.append {text more : String} (h : Unbroken text) (hmore : Unbroken more) : Unbroken (text ++ more) := by
  intro c hmem
  rw [String.toList_append, List.mem_append] at hmem
  exact hmem.elim (h c) (hmore c)

theorem unbroken_repr (n : Nat) : Unbroken (Nat.repr n) := by
  intro c hmem
  have hdigit := Decimal.isDigit_of_mem_repr hmem
  constructor <;> rintro rfl <;> exact absurd hdigit (by decide)

theorem IsLine.append {text line : String} (h : IsLine line) (htext : Unbroken text) : IsLine (text ++ line) := by
  obtain ⟨body, hbody, rfl⟩ := h
  exact ⟨text ++ body, htext.append hbody, String.append_assoc.symm⟩

/-! ## Reading lines back -/

theorem linesFrom_append {body : List Char} (hbody : ∀ c ∈ body, c ≠ '\n' ∧ c ≠ '\r') (line rest : List Char) :
    linesFrom line (body ++ '\n' :: rest) = (line.reverse ++ body ++ ['\n']) :: linesFrom [] rest := by
  induction body generalizing line with
  | nil => simp [linesFrom]
  | cons c body ih =>
      obtain ⟨⟨hfeed, hreturn⟩, hbody⟩ := List.forall_mem_cons.mp hbody
      rw [List.cons_append, linesFrom, if_neg (by simp [hfeed, hreturn]), ih hbody]
      · simp
      · exact fun _ h => absurd h hreturn

theorem lines_append {line : String} (h : IsLine line) (rest : String) : lines (line ++ rest) = line :: lines rest := by
  obtain ⟨body, hbody, rfl⟩ := h
  rw [lines, lines, String.toList_append, String.toList_append, List.append_assoc]
  rw [show "\n".toList ++ rest.toList = '\n' :: rest.toList from rfl, linesFrom_append hbody]
  rw [List.map_cons]
  congr 1
  rw [← String.toList_inj]
  simp

theorem lines_join {all : List String} (h : ∀ line ∈ all, IsLine line) : lines (String.join all) = all := by
  induction all with
  | nil => rfl
  | cons line all ih =>
      obtain ⟨hline, hall⟩ := List.forall_mem_cons.mp h
      rw [String.join_cons, lines_append hline, ih hall]

/-! ## Marks -/

def Mark.char : Mark → Char
  | unchanged => ' '
  | removed => '-'
  | added => '+'

def unmark (mark : Mark) (line : String) : Option String :=
  match line.toList with
  | c :: rest => if c = mark.char then some (.ofList rest) else none
  | [] => none

/-- The lines of a unified diff that have a mark, without it. The first two lines name the sides and have none. -/
def markedLines (mark : Mark) (diff : String) : List String :=
  ((lines diff).drop 2).filterMap (unmark mark)

def Mark.before (mark : Mark) (line : String) : String :=
  .ofList [mark.char] ++ line

theorem unmark_of_toList {text : String} {c : Char} {rest : List Char} (mark : Mark) (h : text.toList = c :: rest) :
    unmark mark text = if c = mark.char then some (.ofList rest) else none := by
  rw [unmark, h]

theorem unmark_before (mark other : Mark) (line : String) :
    unmark mark (other.before line) = if other = mark then some line else none := by
  have htext : (other.before line).toList = other.char :: line.toList := by
    rw [Mark.before, String.toList_append, String.toList_ofList, List.singleton_append]
  rw [unmark_of_toList mark htext, String.ofList_toList]
  cases mark <;> cases other <;> rfl

/-! ## Hunks -/

def Segment.lines (segment : Segment String) : List String :=
  [Mark.unchanged, .removed, .added].flatMap fun mark => (segment.marked mark).map mark.before

def Hunk.lines : Hunk String → List String
  | [] => []
  | first :: rest => headerText first (rest.getLastD first) :: (first :: rest).flatMap (·.segment.lines)

theorem join_flatMap {β : Type} (f : β → List String) (all : List β) :
    String.join (all.flatMap f) = String.join (all.map fun item => String.join (f item)) := by
  induction all with
  | nil => rfl
  | cons item all ih => rw [List.flatMap_cons, String.join_append, ih, List.map_cons, String.join_cons]

theorem Segment.text_eq (segment : Segment String) : segment.text = String.join segment.lines := by
  cases segment <;> simp [text, lines, marked, String.join_append] <;> rfl

theorem Hunk.text_eq (hunk : Hunk String) : hunk.text = String.join hunk.lines := by
  cases hunk with
  | nil => rfl
  | cons first rest =>
      rw [text, lines, List.getLast_eq_getLastD, String.join_cons, join_flatMap]
      simp only [Segment.text_eq]

theorem unified_eq (differ : Differ) (baseline current : String) :
    unified differ baseline current =
      String.join ("--- baseline\n" :: "+++ current\n" ::
        (hunks (differ (lines baseline) (lines current))).flatMap Hunk.lines) := by
  have hnames : "--- baseline\n+++ current\n" = "--- baseline\n" ++ "+++ current\n" := by decide
  have htext : Hunk.text = fun hunk => String.join hunk.lines := funext Hunk.text_eq
  -- Rewriting by equations would compare the names with each other character by character.
  unfold unified
  simp only [hnames, htext, String.append_assoc, String.join_cons, join_flatMap]

/-! ## Lines behind a mark -/

theorem unbroken_rangeText (start stop : Nat) : Unbroken (rangeText start stop) := by
  rw [rangeText]
  split
  · exact unbroken_repr _
  · exact ((unbroken_repr _).append (by decide)).append (unbroken_repr _)

theorem isLine_headerText (first last : Piece String) : IsLine (headerText first last) := by
  have hend : IsLine " @@\n" := ⟨" @@", by decide, rfl⟩
  have hbegin : Unbroken "@@ -" := by decide
  have hbetween : Unbroken " +" := by decide
  exact hend.append (((hbegin.append (unbroken_rangeText _ _)).append hbetween).append (unbroken_rangeText _ _))

theorem unmark_headerText (mark : Mark) (first last : Piece String) : unmark mark (headerText first last) = none := by
  obtain ⟨rest, hrest⟩ : ∃ rest, (headerText first last).toList = '@' :: rest := by
    simp [headerText]
  rw [unmark_of_toList mark hrest]
  cases mark <;> rfl

theorem isLine_before {line : String} (h : IsLine line) (mark : Mark) : IsLine (mark.before line) := by
  refine h.append ?_
  cases mark <;> decide

theorem filterMap_unmark_segment (mark : Mark) (segment : Segment String) :
    segment.lines.filterMap (unmark mark) = segment.marked mark := by
  simp only [Segment.lines, List.flatMap_cons, List.flatMap_nil, List.filterMap_append, List.filterMap_map,
    Function.comp_def, unmark_before]
  cases mark <;> simp

theorem filterMap_unmark_hunk (mark : Mark) (hunk : Hunk String) :
    hunk.lines.filterMap (unmark mark) = markedIn mark hunk := by
  cases hunk with
  | nil => rfl
  | cons first rest =>
      rw [Hunk.lines, List.filterMap_cons_none (unmark_headerText mark _ _), List.filterMap_flatMap]
      simp only [filterMap_unmark_segment]
      rfl

theorem mem_marked_of_mem_hunks {mark : Mark} {script : Script α} {line : α}
    (h : line ∈ markedIn mark (hunks script).flatten) : line ∈ script.marked mark := by
  by_cases hmark : mark = .unchanged
  · obtain rfl := hmark
    exact (markedIn_hunks_sublist script).subset h
  · rwa [markedIn_hunks hmark] at h

theorem isLine_of_mem_hunks {script : Script String} (h : ∀ mark, ∀ line ∈ script.marked mark, IsLine line)
    {line : String} (hmem : line ∈ (hunks script).flatMap Hunk.lines) : IsLine line := by
  obtain ⟨hunk, hhunk, hline⟩ := List.mem_flatMap.mp hmem
  cases hunk with
  | nil => cases hline
  | cons first rest =>
      rcases List.mem_cons.mp hline with rfl | hline
      · exact isLine_headerText _ _
      · obtain ⟨piece, hpiece, hline⟩ := List.mem_flatMap.mp hline
        obtain ⟨mark, -, hline⟩ := List.mem_flatMap.mp hline
        obtain ⟨shown, hshown, rfl⟩ := List.mem_map.mp hline
        have hpiece : piece ∈ (hunks script).flatten := List.mem_flatten_of_mem hhunk hpiece
        exact isLine_before (h mark shown (mem_marked_of_mem_hunks (List.mem_flatMap_of_mem hpiece hshown))) mark

/-- The lines behind a mark in a unified diff are those that its hunks hold of that kind. -/
theorem markedLines_unified {differ : Differ} {baseline current : String}
    (h : ∀ mark, ∀ line ∈ (differ (lines baseline) (lines current)).marked mark, IsLine line) (mark : Mark) :
    markedLines mark (unified differ baseline current) =
      markedIn mark (hunks (differ (lines baseline) (lines current))).flatten := by
  have hnames : IsLine "--- baseline\n" ∧ IsLine "+++ current\n" :=
    ⟨⟨"--- baseline", by decide, rfl⟩, ⟨"+++ current", by decide, rfl⟩⟩
  have hlines : ∀ line ∈ "--- baseline\n" :: "+++ current\n" ::
      (hunks (differ (lines baseline) (lines current))).flatMap Hunk.lines, IsLine line :=
    List.forall_mem_cons.mpr ⟨hnames.1, List.forall_mem_cons.mpr ⟨hnames.2, fun line => isLine_of_mem_hunks h⟩⟩
  rw [markedLines, unified_eq, lines_join hlines]
  simp only [List.drop_succ_cons, List.drop_zero, List.filterMap_flatMap, filterMap_unmark_hunk, markedIn_flatten]

end MetaParity.Diff
