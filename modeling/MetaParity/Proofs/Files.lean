import MetaParity.Files
import MetaParity.Proofs.Except
import MetaParity.Proofs.Lookup
import Mathlib.Data.List.DropRight

/-! # Files written and listed

A file that was created reads as what was written, and the place it was created at stays writable. A directory lists its
files in one order, whatever order they stand in. -/

namespace MetaParity.Files

variable {files written : Files} {place there : Place} {bytes : Bytes} {path : String}

/-! ## Putting a file -/

theorem lookup_put_self : (files.put place bytes).entries.lookup place = some (.file bytes) := by
  have hnone : (files.entries.filter (·.1 ≠ place)).lookup place = none := by
    rw [List.lookup_eq_none_iff]
    intro entry hmem
    have hne : entry.1 ≠ place := by simpa using (List.mem_filter.mp hmem).2
    simpa using hne.symm
  rw [put, List.lookup_append, hnone, Option.none_or, List.lookup_cons_self]

theorem lookup_put_of_ne (h : there ≠ place) :
    (files.put place bytes).entries.lookup there = files.entries.lookup there := by
  have hput : List.lookup there [(place, Node.file bytes)] = none := by
    rw [List.lookup_eq_none_iff]
    simpa using h
  rw [put, List.lookup_append, hput, Option.or_none]
  exact lookup_filter_of_ne h _

theorem node?_eq_directory_iff : files.node? there = some .directory ↔
    files.entries.lookup there = some .directory ∨ files.entries.lookup there = none ∧
      (there.isPrefixOf files.workingDirectory ∨ ∃ entry ∈ files.entries, there.isPrefixOf entry.1) := by
  unfold node?
  cases files.entries.lookup there with
  | some node => simp
  | none => simp [or_iff_not_imp_left]

@[simp] theorem node?_put_self : (files.put place bytes).node? place = some (.file bytes) := by
  rw [node?, lookup_put_self]

theorem node?_put_of_directory (h : files.node? there = some .directory) (hne : there ≠ place) :
    (files.put place bytes).node? there = some .directory := by
  rw [node?_eq_directory_iff] at h ⊢
  rw [lookup_put_of_ne hne]
  rcases h with hentry | ⟨hnone, hworking | ⟨entry, hmem, hprefix⟩⟩
  · exact Or.inl hentry
  · exact Or.inr ⟨hnone, Or.inl hworking⟩
  · refine Or.inr ⟨hnone, Or.inr ?_⟩
    by_cases hentry : entry.1 = place
    · exact ⟨(place, .file bytes), by simp [put], hentry ▸ hprefix⟩
    · exact ⟨entry, by simp [put, hmem, hentry], hprefix⟩

theorem requireDirectory_eq_ok_iff : files.requireDirectory there = .ok () ↔ files.node? there = some .directory := by
  unfold requireDirectory
  split <;> simp_all

/-! ## Paths past a file that was put -/

section

variable (hplace : files.node? place ≠ some .directory)
include hplace

theorem step_put {segment : String} {next : Place} (h : files.step there segment = .ok next) :
    (files.put place bytes).step there segment = .ok next := by
  unfold step at h ⊢
  obtain ⟨⟨⟩, hrequire, hnext⟩ := bind_eq_ok_iff.mp h
  have hdirectory := requireDirectory_eq_ok_iff.mp hrequire
  have hne : there ≠ place := by
    rintro rfl
    exact hplace hdirectory
  rw [requireDirectory_eq_ok_iff.mpr (node?_put_of_directory hdirectory hne)]
  exact hnext

theorem walk_put {segments : List String} {next : Place} (h : files.walk there segments = .ok next) :
    (files.put place bytes).walk there segments = .ok next := by
  unfold walk at h ⊢
  induction segments generalizing there with
  | nil => exact h
  | cons segment segments ih =>
      rw [List.foldlM_cons] at h ⊢
      obtain ⟨middle, hstep, hwalk⟩ := bind_eq_ok_iff.mp h
      rw [step_put hplace hstep]
      exact ih hwalk

end

/-! ## Creating files -/

private theorem rdropWhile_eq_concat_iff {segments before : List String} {name : String} :
    segments.rdropWhile (fun segment => decide (segment = "")) = before ++ [name] ∧
        ¬(before ++ [name]).length < segments.length ↔ segments = before ++ [name] ∧ name ≠ "" := by
  constructor
  · rintro ⟨hnamed, hlength⟩
    have hprefix : before ++ [name] <+: segments := by
      rw [← hnamed]
      exact List.rdropWhile_prefix _ _
    have hsegments := hprefix.eq_of_length_le (Nat.le_of_not_lt hlength)
    rw [hsegments, List.rdropWhile_eq_self_iff, ← hsegments] at hnamed
    exact ⟨hsegments.symm, by simpa using hnamed⟩
  · rintro ⟨rfl, hname⟩
    exact ⟨List.rdropWhile_concat_neg _ _ _ (by simpa using hname), Nat.lt_irrefl _⟩

/-- A path lets a file be created if it leads through directories to a name at which no directory and no locked file
stands. -/
theorem target_eq_ok_iff : files.target path = .ok place ↔
    ∃ start before name parent, files.origin path = .ok start ∧ Path.segments path = before ++ [name] ∧
      name ∉ ["", ".", ".."] ∧ files.walk start before = .ok parent ∧ files.step parent name = .ok place ∧
      files.node? place ≠ some .directory ∧ files.node? place ≠ some .locked := by
  unfold target
  simp only [bind_eq_ok_iff]
  generalize hnamed : ((Path.segments path).reverse.dropWhile fun segment => decide (segment = "")).reverse = named
  rw [← List.rdropWhile] at hnamed
  constructor
  · rintro ⟨start, horigin, parent, hwalk, ⟨⟩, -, hlast⟩
    split at hlast
    · cases hlast
    · cases hlast
    · cases hlast
    · next name hdot hdots heq =>
      obtain ⟨before, rfl⟩ := List.getLast?_eq_some_iff.mp heq
      obtain ⟨hlength, hcreate⟩ := ite_throw_eq_ok_iff.mp hlast
      obtain ⟨next, hstep, hfree⟩ := bind_eq_ok_iff.mp hcreate
      obtain ⟨hsegments, hname⟩ := rdropWhile_eq_concat_iff.mp ⟨hnamed, hlength⟩
      rw [List.dropLast_concat] at hwalk
      split at hfree
      · cases hfree
      · cases hfree
      · next hdirectory hlocked =>
        obtain rfl := Except.ok.inj hfree
        exact ⟨start, before, name, parent, horigin, hsegments, by simpa using ⟨hname, hdot, hdots⟩, hwalk,
          hstep, hdirectory, hlocked⟩
  · rintro ⟨start, before, name, parent, horigin, hsegments, hname, hwalk, hstep, hdirectory, hlocked⟩
    obtain ⟨hempty, hdot, hdots⟩ : name ≠ "" ∧ name ≠ "." ∧ name ≠ ".." := by simpa using hname
    obtain ⟨hconcat, hlength⟩ := rdropWhile_eq_concat_iff.mpr ⟨hsegments, hempty⟩
    obtain rfl := hnamed.symm.trans hconcat
    -- The last step starts in a directory, which is what else is asked of the parent.
    obtain ⟨⟨⟩, hrequire, -⟩ := bind_eq_ok_iff.mp hstep
    refine ⟨start, horigin, parent, by rwa [List.dropLast_concat], (), hrequire, ?_⟩
    rw [List.getLast?_concat]
    split
    · simp_all
    · simp_all
    · simp_all
    · next heq =>
      obtain rfl := Option.some.inj heq
      rw [ite_throw_eq_ok_iff, bind_eq_ok_iff]
      refine ⟨hlength, place, hstep, ?_⟩
      split
      · contradiction
      · contradiction
      · rfl

theorem resolve_eq_ok_iff {node : Node} : files.resolve path = .ok (place, node) ↔
    ∃ start, files.origin path = .ok start ∧ files.walk start (Path.segments path) = .ok place ∧
      files.node? place = some node := by
  unfold resolve
  simp only [bind_eq_ok_iff]
  constructor
  · rintro ⟨start, horigin, next, hwalk, hnode⟩
    split at hnode
    · cases hnode
    · next heq =>
      obtain ⟨rfl, rfl⟩ := Prod.mk.inj (Except.ok.inj hnode)
      exact ⟨start, horigin, hwalk, heq⟩
  · rintro ⟨start, horigin, hwalk, hnode⟩
    exact ⟨start, horigin, place, hwalk, by rw [hnode]; rfl⟩

theorem target_put (h : files.target path = .ok place) : (files.put place bytes).target path = .ok place := by
  rw [target_eq_ok_iff] at h ⊢
  obtain ⟨start, before, name, parent, horigin, hsegments, hname, hwalk, hstep, hdirectory, -⟩ := h
  exact ⟨start, before, name, parent, horigin, hsegments, hname, walk_put hdirectory hwalk,
    step_put hdirectory hstep, by simp, by simp⟩

theorem write_eq_ok_iff : files.write path bytes = .ok written ↔
    ∃ place, files.target path = .ok place ∧ files.put place bytes = written := by
  rw [write, bind_eq_ok_iff]
  simp only [pure_eq_ok_iff]

theorem write_of_target (h : files.target path = .ok place) (bytes : Bytes) :
    files.write path bytes = .ok (files.put place bytes) :=
  write_eq_ok_iff.mpr ⟨place, h, rfl⟩

theorem read_write (h : files.write path bytes = .ok written) : written.read path = .ok bytes := by
  obtain ⟨place, htarget, rfl⟩ := write_eq_ok_iff.mp h
  obtain ⟨start, before, name, parent, horigin, hsegments, hname, hwalk, hstep, hdirectory, -⟩ :=
    target_eq_ok_iff.mp htarget
  have hresolve : (files.put place bytes).resolve path = .ok (place, .file bytes) := by
    refine resolve_eq_ok_iff.mpr ⟨start, horigin, walk_put hdirectory ?_, node?_put_self⟩
    rw [hsegments, walk, List.foldlM_append]
    exact bind_eq_ok_iff.mpr ⟨parent, hwalk, bind_eq_ok_iff.mpr ⟨place, hstep, rfl⟩⟩
  rw [read, hresolve]
  rfl

/-! ## Listing directories -/

def namesAt (files : Files) (place : Place) : List String :=
  files.entries.filterMap fun (there, node) =>
    if node ≠ .directory ∧ there.dropLast = place then there.getLast? else none

/-- Names are those of the files directly inside a directory and ascend, in whatever order the files stand. -/
def Lists (files : Files) (directory : String) (names : List String) : Prop :=
  ∃ place, files.resolve directory = .ok (place, .directory) ∧ names.Perm (files.namesAt place) ∧
    names.Pairwise (· ≤ ·)

private theorem mergeSort_eq_iff {names sorted : List String} :
    names.mergeSort (· ≤ ·) = sorted ↔ sorted.Perm names ∧ sorted.Pairwise (· ≤ ·) := by
  have hperm : (names.mergeSort (· ≤ ·)).Perm names := List.mergeSort_perm ..
  have hsorted : (names.mergeSort (· ≤ ·)).Pairwise (· ≤ ·) := by
    have h : (names.mergeSort (· ≤ ·)).Pairwise fun a b => decide (a ≤ b) :=
      List.pairwise_mergeSort (fun a b c => by simpa using String.le_trans)
        (fun a b => by simpa using String.le_total a b) names
    simpa using h
  constructor
  · rintro rfl
    exact ⟨hperm, hsorted⟩
  · rintro ⟨hperm', hsorted'⟩
    exact List.Perm.eq_of_pairwise (fun a b _ _ => String.le_antisymm) hsorted hsorted' (hperm.trans hperm'.symm)

theorem filesIn_eq_ok_iff {names : List String} : files.filesIn path = .ok names ↔ files.Lists path names := by
  simp only [Lists, ← mergeSort_eq_iff]
  unfold filesIn
  rw [bind_eq_ok_iff]
  constructor
  · rintro ⟨⟨place, node⟩, hresolve, hnames⟩
    cases node with
    | directory => exact ⟨place, hresolve, Except.ok.inj hnames⟩
    | file bytes => cases hnames
    | locked => cases hnames
  · rintro ⟨place, hresolve, rfl⟩
    exact ⟨(place, .directory), hresolve, rfl⟩

private theorem append_le_append_left {front a b : String} (h : a ≤ b) : front ++ a ≤ front ++ b := by
  have hlist := @List.append_left_le Char _ _ _ front.toList a.toList b.toList h
  rwa [← String.toList_append, ← String.toList_append] at hlist

theorem Lists.ascending {names : List String} (h : files.Lists path names)
    (hnames : ∀ name ∈ names, ¬ Path.isAbsolute name) : (names.map (Path.join path)).Pairwise (· ≤ ·) := by
  obtain ⟨place, -, -, hsorted⟩ := h
  have hjoin : ∃ front, ∀ name ∈ names, Path.join path name = front ++ name := by
    by_cases hempty : path = ""
    · exact ⟨"", fun name hmem => by simp [Path.join, hempty]⟩
    · by_cases hslash : path.toList.getLast? = some '/'
      · exact ⟨path, fun name hmem => by simp [Path.join, hnames name hmem, hempty, hslash]⟩
      · exact ⟨path ++ "/", fun name hmem => by simp [Path.join, hnames name hmem, hempty, hslash]⟩
  obtain ⟨front, hfront⟩ := hjoin
  rw [List.pairwise_map]
  refine hsorted.imp_of_mem ?_
  intro a b ha hb hab
  rw [hfront a ha, hfront b hb]
  exact append_le_append_left hab

end MetaParity.Files
