import MetaParity.Command
import MetaParity.Proofs.Files

/-! # What commands come to

When a step of a command succeeds, and what it leaves of the world it acts on. A command succeeds if its steps do, one
after the other. -/

namespace MetaParity.Action

variable {ω α β : Type} {w w' : World ω}

theorem run_pure_eq_ok_iff {a b : α} : (pure a : Action ω α).run w = (.ok b, w') ↔ a = b ∧ w = w' := by
  change (Except.ok a, w) = (Except.ok b, w') ↔ _
  simp

theorem run_bind_eq_ok_iff {m : Action ω α} {f : α → Action ω β} {b : β} :
    (m >>= f).run w = (.ok b, w') ↔ ∃ a w₁, m.run w = (.ok a, w₁) ∧ (f a).run w₁ = (.ok b, w') := by
  have hrun (rest : Except CommandError α → StateM (World ω) (Except CommandError β)) :
      (m.run >>= rest) w = rest (m.run w).1 (m.run w).2 := rfl
  rw [ExceptT.run_bind, hrun]
  rcases m.run w with ⟨error | a, w₁⟩
  · constructor
    · intro h
      cases h
    · rintro ⟨a, w₁, h, -⟩
      cases h
  · constructor
    · intro h
      exact ⟨a, w₁, rfl, h⟩
    · rintro ⟨a, w₁, h, hf⟩
      cases h
      exact hf

theorem run_get_eq_ok_iff {v : World ω} : (get : Action ω (World ω)).run w = (.ok v, w') ↔ w = v ∧ w = w' := by
  change (Except.ok w, w) = (Except.ok v, w') ↔ _
  simp

theorem run_throw_ne_ok {error : CommandError} {a : α} : (throw error : Action ω α).run w ≠ (.ok a, w') := by
  intro h
  cases h

theorem run_ofExcept_eq_ok_iff {error : ε → CommandError} {result : Except ε α} {a : α} :
    (ofExcept error result : Action ω α).run w = (.ok a, w') ↔ result = .ok a ∧ w = w' := by
  change (result.mapError error, w) = (Except.ok a, w') ↔ _
  cases result <;> simp [Except.mapError]

theorem run_print_eq_ok_iff {text : Console} :
    (print text : Action ω Unit).run w = (.ok (), w') ↔ { w with console := w.console ++ text } = w' := by
  change (Except.ok (), { w with console := w.console ++ text }) = (Except.ok (), w') ↔ _
  simp

theorem run_write_eq_ok_iff {path text : String} : (write path text : Action ω Unit).run w = (.ok (), w') ↔
    ∃ files, w.files.write path text.toUTF8.toList = .ok files ∧ { w with files } = w' := by
  unfold write
  simp only [run_bind_eq_ok_iff, run_get_eq_ok_iff, run_ofExcept_eq_ok_iff]
  constructor
  · rintro ⟨_, _, ⟨rfl, rfl⟩, files, _, ⟨hwrite, rfl⟩, hmodify⟩
    cases hmodify
    exact ⟨files, hwrite, rfl⟩
  · rintro ⟨files, hwrite, rfl⟩
    exact ⟨w, w, ⟨rfl, rfl⟩, files, w, ⟨hwrite, rfl⟩, rfl⟩

theorem run_call_eq_ok_iff {operation : ω → α × ω} {a : α} : (call operation).run w = (.ok a, w') ↔
    (operation w.native).1 = a ∧ { w with native := (operation w.native).2 } = w' := by
  change (Except.ok (operation w.native).1, { w with native := (operation w.native).2 }) = (Except.ok a, w') ↔ _
  simp

theorem run_callOrEnd_eq_ok_iff {error : ε → CommandError} {operation : ω → Except ε α × ω} {a : α} :
    (callOrEnd error operation).run w = (.ok a, w') ↔
      ∃ native, operation w.native = (.ok a, native) ∧ { w with native } = w' := by
  unfold callOrEnd
  simp only [run_bind_eq_ok_iff, run_call_eq_ok_iff, run_ofExcept_eq_ok_iff]
  constructor
  · rintro ⟨_, _, ⟨rfl, rfl⟩, hanswer, rfl⟩
    exact ⟨_, Prod.ext hanswer rfl, rfl⟩
  · rintro ⟨native, hoperation, rfl⟩
    exact ⟨_, _, ⟨rfl, rfl⟩, by rw [hoperation], by rw [hoperation]⟩

theorem run_drive_eq_ok_iff {computation : Run.RunM ω α} {a : α} : (drive computation).run w = (.ok a, w') ↔
    ∃ native, computation.run w.native = (some a, native) ∧ { w with native } = w' := by
  unfold drive
  simp only [run_bind_eq_ok_iff, run_call_eq_ok_iff]
  constructor
  · rintro ⟨_, _, ⟨rfl, rfl⟩, hanswer⟩
    split at hanswer
    · next result heq =>
      obtain ⟨rfl, rfl⟩ := run_pure_eq_ok_iff.mp hanswer
      exact ⟨_, Prod.ext heq rfl, rfl⟩
    · exact absurd hanswer run_throw_ne_ok
  · rintro ⟨native, hrun, rfl⟩
    exact ⟨_, _, ⟨rfl, rfl⟩, by rw [hrun]; rfl⟩

theorem run_holding_eq_ok_iff {dispenser : Native.HeldDispenser ω} {action : Action ω α} {a : α} :
    (holding dispenser action).run w = (.ok a, w') ↔
      ∃ w₁, action.run w = (.ok a, w₁) ∧ { w₁ with native := dispenser.release w₁.native } = w' := by
  change ((action.run w).1, { (action.run w).2 with native := dispenser.release (action.run w).2.native }) = _ ↔ _
  rw [Prod.ext_iff]
  constructor
  · rintro ⟨hanswer, hworld⟩
    exact ⟨(action.run w).2, Prod.ext hanswer rfl, hworld⟩
  · rintro ⟨w₁, hrun, rfl⟩
    rw [hrun]
    exact ⟨rfl, rfl⟩

/-! ## Output -/

def Writable (files : Files) (output : Option String) : Prop :=
  ∀ path, output = some path → ∃ place, files.target path = .ok place

/-- Where output went between two worlds: the file that is named holds it without colours, or the console goes on with
it. -/
structure Delivered (output : Option String) (text : Console) (w w' : World ω) : Prop where
  console_eq : w'.console = if output.isSome then w.console else w.console ++ text
  read_eq : ∀ path, output = some path → w'.files.read path = .ok (text.render false).toUTF8.toList

theorem exists_run_deliver {output : Option String} (h : Writable w.files output) (text : Console) :
    ∃ w', (deliver output text).run w = (.ok (), w') ∧ Delivered output text w w' := by
  cases output with
  | none => exact ⟨_, run_print_eq_ok_iff.mpr rfl, rfl, by simp⟩
  | some path =>
      obtain ⟨place, htarget⟩ := h path rfl
      have hwrite := Files.write_of_target htarget (text.render false).toUTF8.toList
      refine ⟨_, run_write_eq_ok_iff.mpr ⟨_, hwrite, rfl⟩, rfl, ?_⟩
      rintro _ ⟨⟩
      exact Files.read_write hwrite

theorem exists_run_create {output : Option String} (h : Writable w.files output) :
    ∃ files, (output.forM (write · "") : Action ω Unit).run w = (.ok (), { w with files }) ∧ Writable files output := by
  cases output with
  | none => exact ⟨w.files, rfl, h⟩
  | some path =>
      obtain ⟨place, htarget⟩ := h path rfl
      refine ⟨_, run_write_eq_ok_iff.mpr ⟨_, Files.write_of_target htarget _, rfl⟩, ?_⟩
      rintro _ ⟨⟩
      exact ⟨place, Files.target_put htarget⟩

end MetaParity.Action
