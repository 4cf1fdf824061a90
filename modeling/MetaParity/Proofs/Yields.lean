import MetaParity.Proofs.Except
import MetaParity.Proofs.Simulation

/-! # What computations answer

Rules for computations over an import that give one answer from every state with a property, failures included, and
that are never given up. -/

namespace MetaParity

variable {σ τ α β : Type}

theorem Drained.exists_answer {drained : Drained} (h : drained.stop ≠ some .exhausted) :
    ∃ answer : Except Failure (List Token), drained.answer = answer.mapError .failed := by
  rcases drained with ⟨tokens, _ | _ | failure⟩
  · exact ⟨.ok tokens, rfl⟩
  · exact ⟨.error _, rfl⟩
  · simp at h

namespace Drive

/-! ## Computations with one answer -/

/-- From every state with `P` the computation gives the answer and ends in a state with `Q`. -/
def Yields (P : σ → Prop) (m : Drive σ α) (answer : Except Failure α) (Q : σ → Prop) : Prop :=
  ∀ s, P s → (m.run s).1 = answer.mapError .failed ∧ Q (m.run s).2

variable {P Q R : σ → Prop}

theorem yields_pure (a : α) : Yields P (pure a) (.ok a) P :=
  fun _ h => ⟨rfl, h⟩

theorem yields_ofExcept {step : σ → Except Failure α × σ} {answer : Except Failure α}
    (h : ∀ s, P s → (step s).1 = answer ∧ Q (step s).2) : Yields P (ofExcept step) answer Q := by
  intro s hs
  obtain ⟨hanswer, hstate⟩ := h s hs
  exact ⟨congrArg (Except.mapError Stop.failed) hanswer, hstate⟩

theorem Yields.andThen {m : Drive σ α} {f : α → Drive σ β} {a : α} {answer : Except Failure β}
    (hm : Yields P m (.ok a) Q) (hf : Yields Q (f a) answer R) : Yields P (m >>= f) answer R := by
  intro s hs
  obtain ⟨hanswer, hstate⟩ := hm s hs
  rw [run_bind, hanswer]
  exact hf _ hstate

theorem Yields.stop {m : Drive σ α} {failure : Failure} (hm : Yields P m (.error failure) Q) (f : α → Drive σ β) :
    Yields P (m >>= f) (.error failure) Q := by
  intro s hs
  obtain ⟨hanswer, hstate⟩ := hm s hs
  rw [run_bind, hanswer]
  exact ⟨rfl, hstate⟩

theorem Yields.bind {m : Drive σ α} {f : α → Drive σ β} {answer : Except Failure α} {g : α → Except Failure β}
    (hm : Yields P m answer P) (hf : ∀ a, answer = .ok a → Yields P (f a) (g a) P) :
    Yields P (m >>= f) (answer >>= g) P := by
  cases answer with
  | ok a => exact hm.andThen (hf a rfl)
  | error failure => exact hm.stop f

theorem Yields.map {m : Drive σ α} {answer : Except Failure α} (f : α → β) (hm : Yields P m answer P) :
    Yields P (f <$> m) (f <$> answer) P := by
  rw [map_eq_pure_bind, map_eq_pure_bind]
  exact hm.bind fun a _ => yields_pure (f a)

theorem yields_mapM {f : α → Drive σ β} {g : α → Except Failure β} {items : List α}
    (h : ∀ item ∈ items, Yields P (f item) (g item) P) : Yields P (items.mapM f) (items.mapM g) P := by
  induction items with
  | nil => exact yields_pure []
  | cons item items ih =>
      rw [List.mapM_cons, List.mapM_cons]
      obtain ⟨hitem, hitems⟩ := List.forall_mem_cons.mp h
      exact hitem.bind fun b _ => (ih hitems).bind fun bs _ => yields_pure (b :: bs)

theorem yields_onCursor {session : Import σ} {query : Query} {body : CursorDrive σ α} {answer : Except Failure α}
    {P' Q' : Cursor × σ → Prop} (hstart : ∀ s, P s → P' (⟨query, .unopened⟩, s)) (hbody : Yields P' body answer Q')
    (hclose : ∀ c s, Q' (c, s) → Q (c.close session s)) : Yields P (onCursor session query body) answer Q := by
  intro s hs
  obtain ⟨hanswer, hstate⟩ := hbody _ (hstart s hs)
  exact ⟨hanswer, hclose _ _ hstate⟩

theorem Yields.of_matches {R : τ → σ → Prop} {m : Drive τ α} {m' : Drive σ α} {answer : Except Failure α}
    (h : Yields P m' answer Q) (hmatches : Matches R m m') :
    Yields (fun t => ∃ s, R t s ∧ P s) m answer (fun t => ∃ s, R t s ∧ Q s) := by
  rintro t ⟨s, hrel, hs⟩
  obtain ⟨hanswer, hrel⟩ := hmatches t s hrel
  obtain ⟨hanswer', hstate⟩ := h s hs
  exact ⟨hanswer.trans hanswer', _, hrel, hstate⟩

end Drive

end MetaParity
