import MetaParity.Command.Verify
import MetaParity.Proofs.Command
import MetaParity.Proofs.Image.Discovery
import MetaParity.Proofs.Run.Agreement

/-! # When a verification passes

A verification passes if and only if it acquires both dispensers, finds an image and passes on every image that it
finds. Then its report has one summary for each of them. -/

namespace MetaParity

variable {ω : Type} {settings : VerifySettings} {files : Files}

namespace VerifySettings

/-- The paths that a verification scans: those of the files directly inside its directory, by ascending name. -/
def Scans (settings : VerifySettings) (files : Files) (scanned : List String) : Prop :=
  match settings.imagesDirectory with
  | some directory => ∃ names, files.Lists directory names ∧ names.map (Path.join directory) = scanned
  | none => scanned = []

/-- The images that a verification finds: those that are named, each of which carries metadata, and those among the
scanned files. Every file is read. -/
def Finds (settings : VerifySettings) (files : Files) (images : List Image) : Prop :=
  ∃ scanned, settings.Scans files scanned ∧
    (∀ path ∈ settings.images ++ scanned, ∃ bytes, files.read path = .ok bytes) ∧
    (∀ path ∈ settings.images, ∃ bytes found, files.read path = .ok bytes ∧ locate bytes = .ok found) ∧
    Image.among files (settings.images ++ scanned) = images

theorem load_eq_ok_iff {images : List Image} : settings.load files = .ok images ↔ settings.Finds files images := by
  unfold load Finds Scans
  simp only [bind_eq_ok_iff, Image.mapM_load_eq_ok_iff, Image.among_append]
  -- The named images that load are also read, so that only the scanned files remain to be.
  have hread (scanned : List String)
      (hnamed : ∀ path ∈ settings.images, ∃ bytes found, files.read path = .ok bytes ∧ locate bytes = .ok found) :
      (∀ path ∈ settings.images ++ scanned, ∃ bytes, files.read path = .ok bytes) ↔
        ∀ path ∈ scanned, ∃ bytes, files.read path = .ok bytes := by
    rw [List.forall_mem_append]
    refine and_iff_right ?_
    intro path hmem
    obtain ⟨bytes, found, hbytes, -⟩ := hnamed path hmem
    exact ⟨bytes, hbytes⟩
  cases settings.imagesDirectory with
  | none =>
      simp only [pure_eq_ok_iff, exists_eq_left]
      constructor
      · rintro ⟨_, ⟨hnamed, rfl⟩, rfl⟩
        exact ⟨(hread [] hnamed).mpr (by simp), hnamed, by simp [Image.among]⟩
      · rintro ⟨-, hnamed, himages⟩
        exact ⟨_, ⟨hnamed, rfl⟩, by simpa [Image.among] using himages⟩
  | some directory =>
      simp only [bind_eq_ok_iff, pure_eq_ok_iff, Image.discover_eq_ok_iff]
      constructor
      · rintro ⟨_, ⟨hnamed, rfl⟩, _, ⟨names, hlists, hscanned, rfl⟩, rfl⟩
        exact ⟨_, ⟨names, hlists, rfl⟩, (hread _ hnamed).mpr hscanned, hnamed, rfl⟩
      · rintro ⟨_, ⟨names, hlists, rfl⟩, hall, hnamed, rfl⟩
        exact ⟨_, ⟨hnamed, rfl⟩, _, ⟨names, hlists, (hread _ hnamed).mp hall, rfl⟩, rfl⟩

/-- A verification passes on the images that it finds: both dispensers are acquired, the baseline first, there is an
image, and image after image passes. -/
def Passes (settings : VerifySettings) (libraries : Native.Libraries ω) (files : Files) (native : ω)
    (images : List Image) : Prop :=
  ∃ baseline current s₁ s₂ s₃, settings.baseline.acquire libraries .baseline native = (.ok baseline, s₁) ∧
    settings.current.acquire libraries .current s₁ = (.ok current, s₂) ∧
    settings.Finds files images ∧ images ≠ [] ∧
    Along (Run.Passes settings.run ⟨baseline.toDispenser, current.toDispenser⟩) images s₂ s₃

end VerifySettings

namespace Command

variable {config : RunConfig} {dispensers : DispenserPair ω} {images : List Image} {failFast : Bool}
  {report : VerifyReport} {s s' : ω}

theorem verifyImages_of_along (h : Along (Run.Passes config dispensers) images s s') (failFast : Bool)
    (report : VerifyReport) :
    ∃ summaries report', (verifyImages config failFast dispensers report images).run s = (some report', s') ∧
      report'.failed = report.failed ∧ report'.images = report.images ++ summaries ∧
      List.Forall₂ (fun image summary => summary.Clean image.path config.scenarios) images summaries := by
  induction h generalizing report with
  | nil start => exact ⟨[], report, rfl, rfl, by simp, .nil⟩
  | cons himage _ ih =>
      obtain ⟨summary, hrun, hpass, hclean⟩ := Run.image_of_passes himage
      obtain ⟨summaries, report', hrest, hfailed, himages, hsummaries⟩ := ih (report.push summary)
      refine ⟨summary :: summaries, report', ?_, ?_, ?_, .cons hclean hsummaries⟩
      · refine Run.run_bind_eq_some_iff.mpr ⟨summary, _, hrun, ?_⟩
        simpa [hpass] using hrest
      · simpa [VerifyReport.push, hpass] using hfailed
      · simpa [VerifyReport.push] using himages

theorem along_of_verifyImages {report' : VerifyReport}
    (hrun : (verifyImages config failFast dispensers report images).run s = (some report', s'))
    (hfailed : report'.failed = 0) : report.failed = 0 ∧ Along (Run.Passes config dispensers) images s s' := by
  induction images generalizing report s with
  | nil =>
      cases hrun
      exact ⟨hfailed, .nil _⟩
  | cons image images ih =>
      obtain ⟨summary, s₁, himage, hrest⟩ := Run.run_bind_eq_some_iff.mp hrun
      -- A failure that ends the run early is counted as well, so that the image cannot have failed either way.
      have hpush : (report.push summary).failed = 0 ∧
          (summary.isPass → Along (Run.Passes config dispensers) images s₁ s') := by
        split at hrest
        · next hstop =>
          have hfail : summary.isPass = false := by
            simp only [Bool.and_eq_true, Bool.not_eq_true'] at hstop
            exact hstop.2
          cases hrest
          exact ⟨hfailed, fun hpass => absurd hpass (by simp [hfail])⟩
        · obtain ⟨hpush, halong⟩ := ih hrest
          exact ⟨hpush, fun _ => halong⟩
      have hpass : summary.isPass := by
        by_contra hfail
        simp [VerifyReport.push, hfail] at hpush
      have hzero : report.failed = 0 := by simpa [VerifyReport.push, hpass] using hpush.1
      exact ⟨hzero, .cons (Run.passes_of_image himage hpass) (hpush.2 hpass)⟩

theorem run_verifyWith_of_load {w : World ω} (hload : settings.load w.files = .ok images) (hne : images ≠ [])
    (startedAt : String) :
    (verifyWith settings startedAt dispensers).run w =
      ExceptT.run
        ((if settings.format = .human then settings.output.forM (Action.write · "") else pure ()) >>= fun _ => do
          let report ← Action.drive
            (verifyImages settings.run settings.failFast dispensers (.start settings startedAt) images)
          Action.deliver settings.output (report.console settings.format settings.showPassed)
          return report) w := by
  have hget {α : Type} (rest : World ω → Action ω α) : (get >>= rest).run w = (rest w).run w := rfl
  have hload' {α : Type} (rest : List Image → Action ω α) :
      (Action.ofExcept .image (settings.load w.files) >>= rest).run w = (rest images).run w := by
    rw [hload]
    rfl
  have hempty : images.isEmpty = false := by simpa using hne
  unfold verifyWith
  rw [hget, hload']
  simp only [hempty, Bool.false_eq_true, ↓reduceIte]
  split <;> rfl

theorem exists_run_prepare {w : World ω} (h : Action.Writable w.files settings.output) :
    ∃ files, ExceptT.run (if settings.format = .human then settings.output.forM (Action.write · "") else pure ()) w =
        (.ok (), { w with files }) ∧ Action.Writable files settings.output := by
  by_cases hformat : settings.format = .human
  · rw [if_pos hformat]
    exact Action.exists_run_create h
  · rw [if_neg hformat]
    exact ⟨w.files, rfl, h⟩

theorem exists_verifyWith {w : World ω} {startedAt : String} {native : ω}
    (hwritable : Action.Writable w.files settings.output) (hfinds : settings.Finds w.files images) (hne : images ≠ [])
    (hrun : (verifyImages settings.run settings.failFast dispensers (.start settings startedAt) images).run w.native =
      (some report, native)) :
    ∃ w', (verifyWith settings startedAt dispensers).run w = (.ok report, w') ∧
      Action.Delivered settings.output (report.console settings.format settings.showPassed) w w' := by
  obtain ⟨files, hprepare, hwritable'⟩ := exists_run_prepare hwritable
  obtain ⟨w', hdeliver, hdelivered⟩ := Action.exists_run_deliver (w := { w with files, native }) hwritable'
    (report.console settings.format settings.showPassed)
  refine ⟨w', ?_, ?_⟩
  · rw [run_verifyWith_of_load (VerifySettings.load_eq_ok_iff.mpr hfinds) hne]
    simp only [Action.run_bind_eq_ok_iff, Action.run_drive_eq_ok_iff, Action.run_pure_eq_ok_iff]
    exact ⟨(), _, hprepare, report, _, ⟨native, hrun, rfl⟩, (), w', hdeliver, rfl, rfl⟩
  · exact ⟨hdelivered.console_eq, hdelivered.read_eq⟩

theorem verifyImages_of_verifyWith {w w' : World ω} {startedAt : String}
    (hwritable : Action.Writable w.files settings.output)
    (h : (verifyWith settings startedAt dispensers).run w = (.ok report, w')) :
    ∃ images native, settings.Finds w.files images ∧ images ≠ [] ∧
      (verifyImages settings.run settings.failFast dispensers (.start settings startedAt) images).run w.native =
        (some report, native) := by
  have hfound : ∃ images, settings.load w.files = .ok images ∧ images ≠ [] := by
    unfold verifyWith at h
    simp only [Action.run_bind_eq_ok_iff, Action.run_get_eq_ok_iff, Action.run_ofExcept_eq_ok_iff] at h
    obtain ⟨_, _, ⟨rfl, rfl⟩, images, _, ⟨hload, rfl⟩, h⟩ := h
    refine ⟨images, hload, ?_⟩
    rintro rfl
    obtain ⟨_, _, hthrow, -⟩ := Action.run_bind_eq_ok_iff.mp h
    exact Action.run_throw_ne_ok hthrow
  obtain ⟨images, hload, hne⟩ := hfound
  obtain ⟨files, hprepare, -⟩ := exists_run_prepare hwritable
  rw [run_verifyWith_of_load hload hne] at h
  obtain ⟨_, _, hprepare', h⟩ := Action.run_bind_eq_ok_iff.mp h
  rw [hprepare] at hprepare'
  cases hprepare'
  simp only [Action.run_bind_eq_ok_iff, Action.run_drive_eq_ok_iff, Action.run_pure_eq_ok_iff] at h
  obtain ⟨report', _, ⟨native, hrun, rfl⟩, _, _, -, rfl, -⟩ := h
  exact ⟨images, native, VerifySettings.load_eq_ok_iff.mp hload, hne, hrun⟩

theorem run_withDispenser_eq_ok_iff {α : Type} {libraries : Native.Libraries ω} {side : Side} {factory : Native.Factory}
    {action : Native.HeldDispenser ω → Action ω α} {a : α} {w w' : World ω} :
    (withDispenser libraries side factory action).run w = (.ok a, w') ↔
      ∃ dispenser native w₁, factory.acquire libraries side w.native = (.ok dispenser, native) ∧
        (action dispenser).run { w with native } = (.ok a, w₁) ∧
        { w₁ with native := dispenser.release w₁.native } = w' := by
  unfold withDispenser
  simp only [Action.run_bind_eq_ok_iff, Action.run_callOrEnd_eq_ok_iff, Action.run_holding_eq_ok_iff]
  constructor
  · rintro ⟨dispenser, _, ⟨native, hacquire, rfl⟩, w₁, haction, hrelease⟩
    exact ⟨dispenser, native, w₁, hacquire, haction, hrelease⟩
  · rintro ⟨dispenser, native, w₁, hacquire, haction, hrelease⟩
    exact ⟨dispenser, _, ⟨native, hacquire, rfl⟩, w₁, haction, hrelease⟩

theorem exists_verify {libraries : Native.Libraries ω} {w : World ω}
    (hwritable : Action.Writable w.files settings.output) (h : settings.Passes libraries w.files w.native images)
    (startedAt : String) :
    ∃ report w', (verify libraries settings startedAt).run w = (.ok report, w') ∧ report.isPass ∧
      List.Forall₂ (fun image summary => summary.Clean image.path settings.run.scenarios) images report.images ∧
      Action.Delivered settings.output (report.console settings.format settings.showPassed) w w' := by
  obtain ⟨baseline, current, s₁, s₂, s₃, hbaseline, hcurrent, hfinds, hne, halong⟩ := h
  obtain ⟨summaries, report, hrun, hfailed, himages, hsummaries⟩ :=
    verifyImages_of_along halong settings.failFast (.start settings startedAt)
  obtain rfl : report.images = summaries := himages
  obtain ⟨w', hverify, hdelivered⟩ := exists_verifyWith (w := { w with native := s₂ }) hwritable hfinds hne hrun
  refine ⟨report, _, run_withDispenser_eq_ok_iff.mpr ⟨baseline, s₁, _, hbaseline,
    run_withDispenser_eq_ok_iff.mpr ⟨current, s₂, w', hcurrent, hverify, rfl⟩, rfl⟩, ?_, hsummaries, ?_⟩
  · have hempty : report.images ≠ [] := by
      intro hnil
      rw [hnil] at hsummaries
      exact hne (List.forall₂_nil_right_iff.mp hsummaries)
    have hzero : report.failed = 0 := hfailed
    simp [VerifyReport.isPass, hempty, hzero]
  · exact ⟨hdelivered.console_eq, hdelivered.read_eq⟩

theorem passes_of_verify {libraries : Native.Libraries ω} {w w' : World ω} {startedAt : String}
    (hwritable : Action.Writable w.files settings.output)
    (h : (verify libraries settings startedAt).run w = (.ok report, w')) (hpass : report.isPass) :
    ∃ images, settings.Passes libraries w.files w.native images := by
  obtain ⟨baseline, s₁, w₁, hbaseline, h, -⟩ := run_withDispenser_eq_ok_iff.mp h
  obtain ⟨current, s₂, w₂, hcurrent, h, -⟩ := run_withDispenser_eq_ok_iff.mp h
  obtain ⟨images, s₃, hfinds, hne, hrun⟩ := verifyImages_of_verifyWith (w := { w with native := s₂ }) hwritable h
  have hfailed : report.failed = 0 := by
    simp only [VerifyReport.isPass, Bool.and_eq_true, beq_iff_eq] at hpass
    exact hpass.1
  obtain ⟨-, halong⟩ := along_of_verifyImages hrun hfailed
  exact ⟨images, baseline, current, s₁, s₂, s₃, hbaseline, hcurrent, hfinds, hne, halong⟩

end Command

end MetaParity
