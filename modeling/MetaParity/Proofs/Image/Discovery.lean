import MetaParity.Image
import MetaParity.Proofs.Files

/-! # Which images are found

An image loads from a file that can be read and carries metadata. A search of a directory needs every file in it to be
read and finds those that carry metadata, by ascending name. -/

namespace MetaParity.Image

variable {files : Files} {path directory : String}

theorem load_eq_ok_iff {image : Image} : load files path = .ok image ↔
    ∃ bytes kind extent, files.read path = .ok bytes ∧ locate bytes = .ok (kind, extent) ∧
      { path, kind, bytes, extent } = image := by
  unfold load ofBytes
  cases files.read path with
  | error error => simp
  | ok bytes =>
      cases hlocate : locate bytes with
      | error reason => simp [hlocate]
      | ok found =>
          obtain ⟨kind, extent⟩ := found
          simp [hlocate]

theorem exists_load_eq_ok_iff : (∃ image, load files path = .ok image) ↔
    ∃ bytes found, files.read path = .ok bytes ∧ locate bytes = .ok found := by
  simp only [load_eq_ok_iff, Prod.exists]
  constructor
  · rintro ⟨image, bytes, kind, extent, hread, hlocate, -⟩
    exact ⟨bytes, kind, extent, hread, hlocate⟩
  · rintro ⟨bytes, kind, extent, hread, hlocate⟩
    exact ⟨_, bytes, kind, extent, hread, hlocate, rfl⟩

theorem load?_eq_ok_iff {found : Option Image} : load? files path = .ok found ↔
    (∃ bytes, files.read path = .ok bytes) ∧ (load files path).toOption = found := by
  unfold load?
  cases hload : load files path with
  | ok image =>
      obtain ⟨bytes, kind, extent, hread, -⟩ := load_eq_ok_iff.mp hload
      simp [hread, Except.toOption]
  | error error =>
      unfold load ofBytes at hload
      cases hread : files.read path with
      | error cause =>
          rw [hread] at hload
          cases hload
          simp
      | ok bytes =>
          rw [hread] at hload
          cases hlocate : locate bytes with
          | ok found => simp [hlocate] at hload
          | error reason =>
              simp only [hlocate] at hload
              cases hload
              simp [Except.toOption]

def among (files : Files) (paths : List String) : List Image :=
  paths.filterMap fun path => (load files path).toOption

theorem among_append (first second : List String) :
    among files (first ++ second) = among files first ++ among files second :=
  List.filterMap_append

theorem mapM_load_eq_ok_iff {paths : List String} {images : List Image} : paths.mapM (load files) = .ok images ↔
    (∀ path ∈ paths, ∃ bytes found, files.read path = .ok bytes ∧ locate bytes = .ok found) ∧
      among files paths = images := by
  simp only [← exists_load_eq_ok_iff]
  exact mapM_eq_ok_iff_filterMap

theorem mapM_load?_eq_ok_iff {paths : List String} {found : List (Option Image)} :
    paths.mapM (load? files) = .ok found ↔
      (∀ path ∈ paths, ∃ bytes, files.read path = .ok bytes) ∧
        paths.map (fun path => (load files path).toOption) = found := by
  have hmap : List.Forall₂ (fun path value => (load files path).toOption = value) paths found ↔
      paths.map (fun path => (load files path).toOption) = found := by
    rw [← List.forall₂_eq_eq_eq, List.forall₂_map_left_iff]
  simp only [mapM_eq_ok_iff, load?_eq_ok_iff, List.forall₂_and_left, hmap]

theorem discover_eq_ok_iff {images : List Image} : discover files directory = .ok images ↔
    ∃ names, files.Lists directory names ∧
      (∀ path ∈ names.map (Path.join directory), ∃ bytes, files.read path = .ok bytes) ∧
      among files (names.map (Path.join directory)) = images := by
  have hsteps : discover files directory = .ok images ↔ ∃ names, files.filesIn directory = .ok names ∧
      ∃ found, (names.map (Path.join directory)).mapM (load? files) = .ok found ∧ found.filterMap id = images := by
    unfold discover
    simp only [List.mapM_map]
    cases files.filesIn directory with
    | error error =>
        constructor
        · intro h
          cases h
        · rintro ⟨names, h, -⟩
          cases h
    | ok names =>
        simp only [bind_eq_ok_iff, pure_eq_ok_iff, Except.ok.injEq, exists_eq_left']
        rfl
  simp only [hsteps, Files.filesIn_eq_ok_iff, mapM_load?_eq_ok_iff]
  constructor
  · rintro ⟨names, hlists, _, ⟨hread, rfl⟩, himages⟩
    exact ⟨names, hlists, hread, by rw [← himages, List.filterMap_map]; rfl⟩
  · rintro ⟨names, hlists, hread, himages⟩
    exact ⟨names, hlists, _, ⟨hread, rfl⟩, by rw [← himages, List.filterMap_map]; rfl⟩

end MetaParity.Image
