import MetaParity.Memory.Session
import MetaParity.Model.Synthetic
import MetaParity.Proofs.Simulation
import Mathlib.Data.List.Induction

/-! # Handles are given back

The trace of a run tells which handles are open at any moment: a page without a handle may create one, and giving a
handle back closes it. Whatever an import answers, a driver never has two handles open, never uses one that is not
open, and leaves none behind. -/

namespace MetaParity

/-! ## What a call does to handles -/

namespace Call

/-- The handle that a call creates: a page without a handle that writes one back. -/
def created? : Call → Option Handle
  | page handle _ _ reply => if handle.isOpened then none else if reply.handle.isOpened then some reply.handle else none
  | _ => none

def closed? : Call → Option Handle
  | close handle => some handle
  | _ => none

def used? : Call → Option Handle
  | page handle _ _ _ => if handle.isOpened then some handle else none
  | count handle _ | reset handle _ _ | close handle => some handle
  | signature _ _ => none

def KeepsHandle : Call → Prop
  | page handle _ _ reply => handle.isOpened → reply.handle = handle
  | _ => True

instance : DecidablePred KeepsHandle
  | page handle _ _ reply => inferInstanceAs (Decidable (handle.isOpened → reply.handle = handle))
  | count .. | reset .. | close .. | signature .. => inferInstanceAs (Decidable True)

def openAfter (call : Call) (opened : List Handle) : List Handle :=
  call.created?.toList ++ call.closed?.elim opened opened.erase

end Call

def openHandles (calls : List Call) : List Handle :=
  calls.foldl (fun opened call => call.openAfter opened) []

@[simp] theorem openHandles_nil : openHandles [] = [] := rfl

@[simp] theorem openHandles_concat (calls : List Call) (call : Call) :
    openHandles (calls ++ [call]) = call.openAfter (openHandles calls) := by
  simp [openHandles]

/-- At no moment of a trace is more than one handle open, and no call uses a handle that is not. -/
structure Disciplined (calls : List Call) : Prop where
  used_open : ∀ before call after, calls = before ++ call :: after → ∀ handle, call.used? = some handle →
    handle.isOpened ∧ handle ∈ openHandles before
  one_open : ∀ before after, calls = before ++ after → (openHandles before).length ≤ 1

/-- A disciplined trace after which no handle is open, so that each was given back as often as it was created. -/
structure Balanced (calls : List Call) : Prop extends Disciplined calls where
  closed_once : ∀ handle, calls.countP (·.created? = some handle) = calls.countP (·.closed? = some handle)
  none_open : openHandles calls = []

theorem disciplined_nil : Disciplined [] :=
  ⟨by simp, by simp⟩

theorem Disciplined.concat {calls : List Call} {call : Call} (h : Disciplined calls)
    (hused : ∀ handle, call.used? = some handle → handle.isOpened ∧ handle ∈ openHandles calls)
    (hopen : (call.openAfter (openHandles calls)).length ≤ 1) : Disciplined (calls ++ [call]) := by
  constructor
  · intro before other after heq
    rcases after.eq_nil_or_concat with rfl | ⟨after, last, rfl⟩
    · obtain ⟨rfl, hlast⟩ := List.append_inj' heq rfl
      obtain rfl : call = other := by simpa using hlast
      exact hused
    · rw [List.concat_eq_append, ← List.cons_append, ← List.append_assoc] at heq
      exact h.used_open before other after (List.append_inj' heq rfl).1
  · intro before after heq
    rcases after.eq_nil_or_concat with rfl | ⟨after, last, rfl⟩
    · rw [List.append_nil] at heq
      rw [← heq, openHandles_concat]
      exact hopen
    · rw [List.concat_eq_append, ← List.append_assoc] at heq
      exact h.one_open before after (List.append_inj' heq rfl).1

/-- In a disciplined trace a handle was created as often as it was given back, and once more if it is open. -/
theorem Disciplined.countP_created {calls : List Call} (h : Disciplined calls) (handle : Handle) :
    calls.countP (·.created? = some handle) =
      calls.countP (·.closed? = some handle) + (openHandles calls).count handle := by
  induction calls using List.reverseRecOn with
  | nil => rfl
  | append_singleton calls call ih =>
      have hcalls : Disciplined calls :=
        ⟨fun before other after heq => h.used_open before other (after ++ [call]) (by simp [heq]),
          fun before after heq => h.one_open before (after ++ [call]) (by simp [heq])⟩
      have hused := h.used_open calls call [] rfl
      have hcount := ih hcalls
      rw [List.countP_append, List.countP_append, openHandles_concat, hcount]
      cases call with
      | close other =>
          have hmem := (hused other rfl).2
          by_cases hother : other = handle
          · subst hother
            have hpos : 0 < (openHandles calls).count other := List.count_pos_iff.mpr hmem
            simp [Call.openAfter, Call.created?, Call.closed?]
            omega
          · simp [Call.openAfter, Call.created?, Call.closed?, hother, Ne.symm hother]
      | page other query capacity reply =>
          cases hcreated : (Call.page other query capacity reply).created? with
          | none => simp [Call.openAfter, hcreated, Call.closed?]
          | some new =>
              by_cases hnew : new = handle
              · simp [Call.openAfter, hcreated, Call.closed?, hnew]
                omega
              · simp [Call.openAfter, hcreated, Call.closed?, hnew]
      | count | reset | signature => simp [Call.openAfter, Call.created?, Call.closed?]

/-! ## The handle of a cursor -/

def Handle.held (handle : Handle) : List Handle :=
  if handle.isOpened then [handle] else []

theorem Handle.length_held_le (handle : Handle) : handle.held.length ≤ 1 := by
  unfold held
  split <;> simp

/-- As long as pages leave their handles unchanged, a trace is disciplined and exactly `opened` are open after it. -/
def Accounted (calls : List Call) (opened : List Handle) : Prop :=
  (∀ call ∈ calls, call.KeepsHandle) → Disciplined calls ∧ openHandles calls = opened

theorem Accounted.concat {calls : List Call} {opened opened' : List Handle} (call : Call) (h : Accounted calls opened)
    (hused : ∀ handle, call.used? = some handle → handle.isOpened ∧ handle ∈ opened)
    (hafter : call.KeepsHandle → call.openAfter opened = opened') (hlength : opened'.length ≤ 1) :
    Accounted (calls ++ [call]) opened' := by
  intro hkeeps
  obtain ⟨hdisciplined, hopened⟩ := h fun other hmem => hkeeps other (by simp [hmem])
  have hafter := hafter (hkeeps call (by simp))
  constructor
  · exact hdisciplined.concat (by rwa [hopened]) (by rwa [hopened, hafter])
  · rw [openHandles_concat, hopened, hafter]

theorem Accounted.page {calls : List Call} {handle : Handle} (h : Accounted calls handle.held) (query : Query)
    (capacity : Nat) (reply : PageReply) :
    Accounted (calls ++ [.page handle query capacity reply]) reply.handle.held := by
  refine h.concat _ ?_ ?_ reply.handle.length_held_le
  · intro used hused
    simp only [Call.used?] at hused
    split at hused
    · next hopened =>
        obtain rfl := Option.some.inj hused
        exact ⟨hopened, by simp [Handle.held, hopened]⟩
    · cases hused
  · intro hkeeps
    -- An open handle stays; without one, what the reply wrote back is all that is open.
    cases hopened : handle.isOpened with
    | true => simp [Call.openAfter, Call.created?, Call.closed?, hopened, hkeeps hopened]
    | false => cases hnew : reply.handle.isOpened <;>
        simp [Call.openAfter, Call.created?, Call.closed?, Handle.held, hopened, hnew]

theorem Accounted.use {calls : List Call} {handle : Handle} (h : Accounted calls handle.held)
    (hopened : handle.isOpened) (call : Call) (hused : call.used? = some handle)
    (hafter : ∀ opened, call.openAfter opened = opened) : Accounted (calls ++ [call]) handle.held := by
  refine h.concat call ?_ (fun _ => hafter _) handle.length_held_le
  intro used heq
  obtain rfl := Option.some.inj (hused.symm.trans heq)
  exact ⟨hopened, by simp [Handle.held, hopened]⟩

theorem Accounted.close {calls : List Call} {handle : Handle} (h : Accounted calls handle.held)
    (hopened : handle.isOpened) : Accounted (calls ++ [.close handle]) [] := by
  refine h.concat _ ?_ ?_ (by simp)
  · intro used heq
    obtain rfl := Option.some.inj heq
    exact ⟨hopened, by simp [Handle.held, hopened]⟩
  · intro _
    simp [Call.openAfter, Call.created?, Call.closed?, Handle.held, hopened]

theorem Accounted.signature {calls : List Call} (h : Accounted calls []) (token : Token)
    (answer : Except Status Blob) : Accounted (calls ++ [.signature token answer]) [] :=
  h.concat _ (fun _ heq => by cases heq) (fun _ => rfl) (by simp)

theorem Accounted.balanced {calls : List Call} (h : Accounted calls [])
    (hkeeps : ∀ call ∈ calls, call.KeepsHandle) : Balanced calls := by
  obtain ⟨hdisciplined, hnone⟩ := h hkeeps
  refine { hdisciplined with closed_once := fun handle => ?_, none_open := hnone }
  rw [hdisciplined.countP_created handle, hnone]
  rfl

/-- Between cursors no handle is open; while one is in use, exactly its own is. -/
def handleInvariant {σ : Type} (session : Import σ) : Invariant session.traced where
  Holds state := Accounted state.2 []
  Held cursor state := Accounted state.2 cursor.handle.held
  start _ h := h
  page _ h := h.page _ _ _
  count {c s} h := by
    unfold Cursor.count Cursor.isOpened
    split
    · next hopened => exact h.use hopened _ rfl fun _ => rfl
    · exact h
  reset {c s} offset h := by
    unfold Cursor.reset Cursor.isOpened
    split
    · next hopened => exact h.use hopened _ rfl fun _ => rfl
    · exact h
  close {c s} h := by
    unfold Cursor.close Cursor.isOpened
    split
    · next hopened => exact h.close hopened
    · next hunopened => simpa [Handle.held, hunopened] using h
  signature _ h := h.signature _ _

/-! ## Runs over arbitrary imports -/

/-- However a scenario or a walk ends, it has used open handles only, never held two of them, and given each back
exactly once. -/
theorem balanced_run {σ : Type} (session : Import σ) (capacity : Nat) (state : σ) :
    (∀ (scenario : Scenario) (side : Side) (strictReset : Bool) (calls : List Call),
      ((scenario.run (Lister.of session.traced capacity) side strictReset).run (state, [])).2.2 = calls →
        (∀ call ∈ calls, call.KeepsHandle) → Balanced calls) ∧
    (∀ (top : Query) (walks : List Walk) (calls : List Call),
      (((Lister.of session.traced capacity).compose top walks).run (state, [])).2.2 = calls →
        (∀ call ∈ calls, call.KeepsHandle) → Balanced calls) := by
  have hstart : (handleInvariant session).Holds (state, []) := fun _ => ⟨disciplined_nil, rfl⟩
  constructor
  · rintro scenario side strictReset calls rfl hkeeps
    exact ((handleInvariant session).scenario capacity scenario side strictReset hstart).balanced hkeeps
  · rintro top walks calls rfl hkeeps
    exact ((handleInvariant session).compose capacity top walks hstart).balanced hkeeps

/-- A walk whose paging fails below a method, and one that ends well. -/
theorem balanced_run_failing :
    let session := Memory.session (Model.synthetic 2 1 1 0) { paging := some (.params, .fail) }
    let scenarioCalls := ((Scenario.run .typeHierarchy (Lister.of session.traced 2) .baseline true).run ({}, [])).2.2
    let walkCalls := (((Lister.of session.traced 1).compose .typeDefs Walk.members).run ({}, [])).2.2
    (∀ call ∈ scenarioCalls, call.KeepsHandle) ∧ scenarioCalls.length = 13 ∧ Balanced scenarioCalls ∧
      (∀ call ∈ walkCalls, call.KeepsHandle) ∧ Balanced walkCalls := by
  intro session scenarioCalls walkCalls
  have hscenario : ∀ call ∈ scenarioCalls, call.KeepsHandle := by decide +kernel
  have hwalk : ∀ call ∈ walkCalls, call.KeepsHandle := by decide +kernel
  exact ⟨hscenario, by decide +kernel, (balanced_run session 2 {}).1 .typeHierarchy .baseline true _ rfl hscenario,
    hwalk, (balanced_run session 1 {}).2 .typeDefs Walk.members _ rfl hwalk⟩

end MetaParity
