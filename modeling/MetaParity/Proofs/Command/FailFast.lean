import MetaParity.Proofs.Command.Verify

/-! # Stopping at the first image that fails

A verification that stops early reports the images of the full one up to the first that fails, and comes to the same
verdict. What a report counts are the images that it lists. -/

namespace MetaParity

/-- Summaries up to the first that does not pass, with that one. -/
def throughFirstFailing : List ImageSummary → List ImageSummary
  | [] => []
  | summary :: rest => if summary.isPass then summary :: throughFirstFailing rest else [summary]

theorem throughFirstFailing_eq_nil_iff {summaries : List ImageSummary} :
    throughFirstFailing summaries = [] ↔ summaries = [] := by
  cases summaries with
  | nil => simp [throughFirstFailing]
  | cons summary rest => simp only [throughFirstFailing, reduceCtorEq, iff_false]; split <;> simp

theorem forall_throughFirstFailing_iff {summaries : List ImageSummary} :
    (∀ summary ∈ throughFirstFailing summaries, summary.isPass) ↔ ∀ summary ∈ summaries, summary.isPass := by
  induction summaries with
  | nil => simp [throughFirstFailing]
  | cons summary rest ih =>
      unfold throughFirstFailing
      split
      · next hpass => rw [List.forall_mem_cons, List.forall_mem_cons, ih]
      · next hfail => simp [hfail]

namespace VerifyReport

/-- A report counts the images that it lists: those that pass and those that fail. -/
structure Counted (report : VerifyReport) : Prop where
  passed_eq : report.passed = report.images.countP (·.isPass)
  failed_eq : report.failed = report.images.countP (!·.isPass)
  length_eq : report.passed + report.failed = report.images.length

theorem counted_start (settings : VerifySettings) (startedAt : String) : (start settings startedAt).Counted :=
  ⟨rfl, rfl, rfl⟩

theorem Counted.push {report : VerifyReport} (h : report.Counted) (summary : ImageSummary) :
    (report.push summary).Counted := by
  have hpassed := h.passed_eq
  have hfailed := h.failed_eq
  have hlength := h.length_eq
  cases hpass : summary.isPass with
  | true =>
      constructor <;>
        simp only [VerifyReport.push, hpass, if_true, List.countP_append, List.countP_singleton, List.length_append,
          List.length_singleton, Bool.not_true, Bool.false_eq_true, if_false] <;>
        omega
  | false =>
      constructor <;>
        simp only [VerifyReport.push, hpass, if_true, List.countP_append, List.countP_singleton, List.length_append,
          List.length_singleton, Bool.not_false, Bool.false_eq_true, if_false] <;>
        omega

theorem Counted.isPass_iff {report : VerifyReport} (h : report.Counted) :
    report.isPass ↔ report.images ≠ [] ∧ ∀ summary ∈ report.images, summary.isPass := by
  have hfailed : report.failed = 0 ↔ ∀ summary ∈ report.images, summary.isPass := by
    rw [h.failed_eq, List.countP_eq_zero]
    simp
  rw [← hfailed]
  simp [isPass, and_comm]

end VerifyReport

namespace Command

variable {ω : Type} {config : RunConfig} {dispensers : DispenserPair ω} {images : List Image} {s s' : ω}

theorem counted_of_verifyImages {failFast : Bool} {report report' : VerifyReport} (h : report.Counted)
    (hrun : (verifyImages config failFast dispensers report images).run s = (some report', s')) : report'.Counted := by
  induction images generalizing report s with
  | nil =>
      cases hrun
      exact h
  | cons image images ih =>
      obtain ⟨summary, s₁, -, hrest⟩ := Run.run_bind_eq_some_iff.mp hrun
      split at hrest
      · cases hrest
        exact h.push summary
      · exact ih (h.push summary) hrest

theorem exists_verifyImages_failFast {report full : VerifyReport} (report' : VerifyReport)
    (hrun : (verifyImages config false dispensers report images).run s = (some full, s')) :
    ∃ summaries short s'', full.images = report.images ++ summaries ∧
      (verifyImages config true dispensers report' images).run s = (some short, s'') ∧
      short.images = report'.images ++ throughFirstFailing summaries := by
  induction images generalizing report report' s with
  | nil =>
      cases hrun
      exact ⟨[], report', _, by simp, rfl, by simp [throughFirstFailing]⟩
  | cons image images ih =>
      obtain ⟨summary, s₁, himage, hrest⟩ := Run.run_bind_eq_some_iff.mp hrun
      rw [if_neg (by simp)] at hrest
      obtain ⟨summaries, short, s₂, hfull, hshort, himages⟩ := ih (report'.push summary) hrest
      have hfull : full.images = report.images ++ summary :: summaries := by
        simpa [VerifyReport.push] using hfull
      cases hpass : summary.isPass with
      | true =>
          refine ⟨summary :: summaries, short, s₂, hfull, Run.run_bind_eq_some_iff.mpr ⟨summary, s₁, himage, ?_⟩, ?_⟩
          · simpa [hpass] using hshort
          · simpa [VerifyReport.push, throughFirstFailing, hpass] using himages
      | false =>
          refine ⟨summary :: summaries, report'.push summary, s₁, hfull,
            Run.run_bind_eq_some_iff.mpr ⟨summary, s₁, himage, ?_⟩, ?_⟩
          · simp [hpass]
            rfl
          · simp [VerifyReport.push, throughFirstFailing, hpass]

/-- Of the images that a full run lists, a run that stops early lists those up to the first that fails. -/
theorem exists_short_report {settings settings' : VerifySettings} {startedAt startedAt' : String} {full : VerifyReport}
    (hrun : (verifyImages config false dispensers (.start settings startedAt) images).run s = (some full, s')) :
    ∃ short s'', (verifyImages config true dispensers (.start settings' startedAt') images).run s = (some short, s'') ∧
      short.images = throughFirstFailing full.images ∧ full.Counted ∧ short.Counted ∧ short.isPass = full.isPass := by
  obtain ⟨summaries, short, s'', hfull, hshort, himages⟩ :=
    exists_verifyImages_failFast (.start settings' startedAt') hrun
  obtain rfl : full.images = summaries := hfull
  have hcounted := counted_of_verifyImages (VerifyReport.counted_start settings startedAt) hrun
  have hcounted' := counted_of_verifyImages (VerifyReport.counted_start settings' startedAt') hshort
  refine ⟨short, s'', hshort, himages, hcounted, hcounted', Bool.eq_iff_iff.mpr ?_⟩
  have himages : short.images = throughFirstFailing full.images := himages
  rw [hcounted'.isPass_iff, hcounted.isPass_iff, himages, forall_throughFirstFailing_iff, Ne,
    throughFirstFailing_eq_nil_iff]

theorem exists_isPass_iff {libraries : Native.Libraries ω} {settings : VerifySettings} (w : World ω) (startedAt : String)
    (hwritable : Action.Writable w.files settings.output) :
    (∃ report w', (verify libraries settings startedAt).run w = (.ok report, w') ∧ report.isPass) ↔
      ∃ images, settings.Passes libraries w.files w.native images := by
  constructor
  · rintro ⟨report, w', hrun, hpass⟩
    exact passes_of_verify hwritable hrun hpass
  · rintro ⟨images, h⟩
    obtain ⟨report, w', hrun, hpass, -⟩ := exists_verify hwritable h startedAt
    exact ⟨report, w', hrun, hpass⟩

end Command

end MetaParity
