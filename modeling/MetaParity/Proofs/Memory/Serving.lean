import MetaParity.Proofs.Memory.Paging

/-! # Imports that serve a model

An import serves a model when its cursors stand where iterators of the model do and every use of them answers as the
iterator does, however much the import fits into a page. All imports that serve one model answer a scenario alike. -/

namespace MetaParity

variable {σ τ : Type} {model : Model} {faults : Memory.FaultPlan}

namespace Memory

/-! ## Drains of iterators -/

theorem Iterator.drain_of_page (iterator : Iterator) {limit : Nat} (hlimit : 0 < limit) :
    iterator.drain model faults =
      match iterator.page model faults limit with
      | (.error failure, iterator) => (⟨[], some (.failed failure)⟩, iterator)
      | (.ok [], iterator) => (⟨[], none⟩, iterator)
      | (.ok (token :: more), iterator) =>
        let (rest, iterator) := iterator.drain model faults
        (⟨token :: more ++ rest.tokens, rest.stop⟩, iterator) := by
  unfold page
  cases hfault : iterator.fault? faults with
  | some status => simp [drain, hfault]
  | none =>
      have hlength := List.length_take (l := iterator.rest model) (i := limit)
      cases htaken : (iterator.rest model).take limit with
      | nil =>
          rw [htaken, List.length_nil] at hlength
          have hrest : iterator.rest model = [] := List.eq_nil_of_length_eq_zero (by omega)
          simp [drain, hfault, hrest]
      | cons token more =>
          rw [htaken, List.length_cons] at hlength
          have hall := List.prefix_iff_eq_append.mp (List.take_prefix limit (iterator.rest model))
          have hend : (token :: more).length + ((iterator.rest model).drop (token :: more).length).length =
              (iterator.rest model).length := by
            rw [List.length_drop, List.length_cons]
            omega
          rw [htaken] at hall
          simp only [drain, fault?_advance, hfault, rest_advance, hall, advance_advance, hend]

theorem Iterator.stop_drain_ne (model : Model) (faults : FaultPlan) (iterator : Iterator) :
    (iterator.drain model faults).1.stop ≠ some .exhausted := by
  unfold drain
  cases iterator.fault? faults <;> simp

theorem Iterator.length_rest_le (iterator : Iterator) :
    (iterator.rest model).length ≤ (model.items iterator.query).length :=
  (List.drop_suffix _ _).length_le

theorem Iterator.length_rest_page_lt {iterator : Iterator} {limit : Nat} {token : Token} {more : List Token}
    (h : (iterator.page model faults limit).1 = .ok (token :: more)) :
    ((iterator.page model faults limit).2.rest model).length < (iterator.rest model).length := by
  unfold page at h ⊢
  cases hfault : iterator.fault? faults with
  | some status => simp [hfault] at h
  | none =>
      simp only [hfault, Except.ok.injEq] at h ⊢
      have hlength := List.length_take (l := iterator.rest model) (i := limit)
      rw [rest_advance, List.length_drop]
      rw [h, List.length_cons] at hlength ⊢
      omega

/-! ## Serving a model -/

/-- Cursors on the import stand where iterators of the model do, and answer and move as these do, by pages of whatever
length. -/
structure Serving (session : Import σ) (model : Model) (faults : FaultPlan) extends
    Footing session (fun query => (⟨query, none⟩ : Iterator)) where
  page : ∀ {iterator c s} (buffer : Buffer), 0 < buffer.capacity → Stands iterator (c, s) →
    ∃ limit, 0 < limit ∧ (c.page session buffer s).1 = (iterator.page model faults limit).1 ∧
      Stands (iterator.page model faults limit).2 ((c.page session buffer s).2.1, (c.page session buffer s).2.2.2)
  count : ∀ {iterator c s}, Stands iterator (c, s) →
    (c.count session s).1 = .ok (iterator.count model faults) ∧ Stands iterator (c, (c.count session s).2)
  reset : ∀ {iterator c s} offset, Stands iterator (c, s) →
    (c.reset session offset s).1 = (iterator.reset faults offset).1 ∧
      Stands (iterator.reset faults offset).2 (c, (c.reset session offset s).2)
  signature : ∀ {s} token, Holds s →
    (session.signature token s).1 = Memory.signature model faults token ∧ Holds (session.signature token s).2
  pageLimit : ∀ {iterator c s}, Stands iterator (c, s) → (iterator.rest model).length < session.pageLimit s

namespace Serving

variable {session : Import σ} {session' : Import τ} (serving : Serving session model faults)
  (serving' : Serving session' model faults)

/-- However long its pages are, a drain yields what lies ahead of the cursor. -/
theorem drainFrom {fuel : Nat} {iterator : Iterator} {c : Cursor} {buffer : Buffer} {s : σ}
    (hcapacity : 0 < buffer.capacity) (hfuel : (iterator.rest model).length < fuel)
    (h : serving.Stands iterator (c, s)) :
    (c.drainFrom session fuel buffer s).1 = (iterator.drain model faults).1 ∧
      serving.Stands (iterator.drain model faults).2 (c.drainFrom session fuel buffer s).2 := by
  induction fuel generalizing iterator c buffer s with
  | zero => exact absurd hfuel (Nat.not_lt_zero _)
  | succ fuel ih =>
      obtain ⟨limit, hlimit, hresult, hstands⟩ := serving.page buffer hcapacity h
      have hless := @Iterator.length_rest_page_lt model faults iterator limit
      have hwritten : (c.page session buffer s).2.2.1.capacity = buffer.capacity := rfl
      rw [iterator.drain_of_page hlimit]
      unfold Cursor.drainFrom
      revert hresult hstands hless hwritten
      rcases c.page session buffer s with ⟨result, c, next, s⟩
      rcases iterator.page model faults limit with ⟨_, iterator⟩
      rintro rfl hstands hless hwritten
      rcases result with failure | _ | ⟨token, more⟩
      · exact ⟨rfl, hstands⟩
      · exact ⟨rfl, hstands⟩
      · have hrest := Nat.lt_of_lt_of_le (hless rfl) (Nat.le_of_lt_succ hfuel)
        obtain ⟨hdrained, hstands⟩ := ih (hwritten ▸ hcapacity) hrest hstands
        refine ⟨?_, hstands⟩
        dsimp only
        rw [hdrained]

theorem yields_drain (capacity : Nat) {iterator : Iterator} {answer : Except Failure (List Token)}
    (hanswer : (iterator.drain model faults).1.answer = answer.mapError .failed) :
    Drive.Yields (serving.Stands iterator) (CursorDrive.drain session capacity) answer
      (serving.Stands (iterator.drain model faults).2) := by
  rintro ⟨c, s⟩ h
  have hcapacity : 0 < (Buffer.empty (max capacity 1)).capacity :=
    Nat.lt_of_lt_of_le Nat.one_pos (Nat.le_max_right capacity 1)
  obtain ⟨hdrained, hstands⟩ := serving.drainFrom hcapacity (serving.pageLimit h) h
  rw [CursorDrive.run_drain]
  unfold Cursor.drain
  rw [hdrained]
  exact ⟨hanswer, hstands⟩

theorem concurrent (capacity capacity' : Nat) :
    (Lister.of session capacity).Concurrent (Lister.of session' capacity') serving.toFooting serving'.toFooting where
  lookup token :=
    Drive.concur_ofExcept (fun _ => (Memory.signature model faults token).mapError (.lookupFailed token)) id
      (fun h => (serving.signature token h).imp_left (congrArg (Except.mapError _)))
      (fun h => (serving'.signature token h).imp_left (congrArg (Except.mapError _)))
  drain iterator := by
    obtain ⟨answer, hanswer⟩ := Drained.exists_answer (iterator.stop_drain_ne model faults)
    exact ⟨answer, _, serving.yields_drain _ hanswer, serving'.yields_drain _ hanswer⟩
  count := Drive.concur_ofExcept (fun iterator => .ok (iterator.count model faults)) id serving.count serving'.count
  reset offset := Drive.concur_ofExcept (fun iterator => (iterator.reset faults offset).1)
    (fun iterator => (iterator.reset faults offset).2) (serving.reset offset) (serving'.reset offset)

end Serving

/-! ## In-memory sessions -/

/-- Unless pages claim more than they hold, a session serves its own model. -/
def serving (model : Model) (faults : FaultPlan) (hoverrun : faults.pageOverrun = none) :
    Serving (session model faults) model faults where
  toFooting := footing model faults
  page buffer hcapacity h := ⟨buffer.capacity, hcapacity, h.page hoverrun buffer⟩
  count h := h.count
  reset offset h := h.reset offset
  signature _ _ := ⟨rfl, trivial⟩
  pageLimit _ := Nat.lt_succ_of_le (Nat.le_trans (Iterator.length_rest_le _) (model.length_items_le _))

end Memory

end MetaParity
