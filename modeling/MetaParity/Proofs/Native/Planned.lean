import MetaParity.Proofs.Native.Traced

/-! # Calls that follow a plan

Requests that are made on one library in turn, and no more after the first whose call fails. -/

namespace MetaParity.Native

variable {σ α β ε ε' : Type} {path : String} {plan plan' : List Request} {calls calls' : List Exchange}

/-! ## Plans -/

/-- Calls make the requests of a plan on the library at a path, one after the other: all of them, or up to the first whose
call fails. -/
inductive Follows (path : String) : (plan : List Request) → (calls : List Exchange) → Prop where
  | done : Follows path [] []
  | failed {request : Request} {reply : Reply} {plan : List Request} : reply.status.isFailure →
      Follows path (request :: plan) [⟨path, request, reply⟩]
  | went {request : Request} {reply : Reply} {plan : List Request} {calls : List Exchange} :
      reply.status.isFailure = false → Follows path plan calls →
      Follows path (request :: plan) (⟨path, request, reply⟩ :: calls)

def WentWell (calls : List Exchange) : Prop :=
  ∀ call ∈ calls, call.reply.status.isFailure = false

instance (calls : List Exchange) : Decidable (WentWell calls) :=
  inferInstanceAs (Decidable (∀ call ∈ calls, _))

theorem wentWell_nil : WentWell [] :=
  fun _ hmem => by cases hmem

theorem wentWell_cons {call : Exchange} :
    WentWell (call :: calls) ↔ call.reply.status.isFailure = false ∧ WentWell calls :=
  List.forall_mem_cons

theorem wentWell_append : WentWell (calls ++ calls') ↔ WentWell calls ∧ WentWell calls' :=
  List.forall_mem_append

namespace Follows

theorem append (h : Follows path plan calls) (hwell : WentWell calls) (h' : Follows path plan' calls') :
    Follows path (plan ++ plan') (calls ++ calls') := by
  induction h with
  | done => exact h'
  | failed hfailure => exact absurd hfailure (ne_true_of_eq_false (wentWell_cons.mp hwell).1)
  | went hreply _ ih => exact .went hreply (ih (wentWell_cons.mp hwell).2)

theorem append_left (h : Follows path plan calls) (hill : ¬WentWell calls) (plan' : List Request) :
    Follows path (plan ++ plan') calls := by
  induction h with
  | done => exact absurd wentWell_nil hill
  | failed hfailure => exact .failed hfailure
  | went hreply _ ih => exact .went hreply (ih fun hwell => hill (wentWell_cons.mpr ⟨hreply, hwell⟩))

end Follows

/-! ## Computations that follow plans -/

/-- A computation ends with a value if no call fails, and with an error otherwise. -/
inductive Ends (P : α → Prop) (calls : List Exchange) : (answer : Except ε α) → Prop where
  | ok {a : α} : P a → WentWell calls → Ends P calls (.ok a)
  | error {e : ε} : ¬WentWell calls → Ends P calls (.error e)

/-- Between two traces the calls follow a plan, and they decide how the computation that makes them ends. -/
def Performs (path : String) (plan : List Request) (P : α → Prop) (before : List Exchange) (answer : Except ε α)
    (after : List Exchange) : Prop :=
  ∃ calls, after = before ++ calls ∧ Follows path plan calls ∧ Ends P calls answer

namespace Performs

variable {P : α → Prop} {Q : β → Prop} {before between after : List Exchange}

theorem done {a : α} (h : P a) : Performs path [] P before (.ok a : Except ε α) before :=
  ⟨[], (List.append_nil before).symm, .done, .ok h wentWell_nil⟩

theorem failed {request : Request} {reply : Reply} (hfailure : reply.status.isFailure) (e : ε) :
    Performs path (request :: plan) P before (.error e : Except ε α) (before ++ [⟨path, request, reply⟩]) :=
  ⟨_, rfl, .failed hfailure, .error fun hwell => ne_true_of_eq_false (wentWell_cons.mp hwell).1 hfailure⟩

theorem went {request : Request} {reply : Reply} {answer : Except ε α} (hreply : reply.status.isFailure = false)
    (h : Performs path plan P (before ++ [⟨path, request, reply⟩]) answer after) :
    Performs path (request :: plan) P before answer after := by
  obtain ⟨calls, rfl, hfollows, hends⟩ := h
  refine ⟨⟨path, request, reply⟩ :: calls, List.append_assoc _ _ _, .went hreply hfollows, ?_⟩
  cases hends with
  | ok hvalue hwell => exact .ok hvalue (wentWell_cons.mpr ⟨hreply, hwell⟩)
  | error hill => exact .error fun hwell => hill (wentWell_cons.mp hwell).2

theorem map {f : α → β} {answer : Except ε α} (h : Performs path plan P before answer after)
    (hf : ∀ a, P a → Q (f a)) : Performs path plan Q before (answer.map f) after := by
  obtain ⟨calls, hafter, hfollows, hends⟩ := h
  refine ⟨calls, hafter, hfollows, ?_⟩
  cases hends with
  | ok hvalue hwell => exact .ok (hf _ hvalue) hwell
  | error hill => exact .error hill

theorem mapError {f : ε → ε'} {answer : Except ε α} (h : Performs path plan P before answer after) :
    Performs path plan P before (answer.mapError f) after := by
  obtain ⟨calls, hafter, hfollows, hends⟩ := h
  refine ⟨calls, hafter, hfollows, ?_⟩
  cases hends with
  | ok hvalue hwell => exact .ok hvalue hwell
  | error hill => exact .error hill

theorem holds {a : α} (h : Performs path plan P before (.ok a : Except ε α) after) : P a := by
  obtain ⟨_, -, -, hends⟩ := h
  cases hends with
  | ok hvalue _ => exact hvalue

/-- A plan goes on where the one before was followed to its end. -/
theorem andThen {a : α} {answer : Except ε β} (h : Performs path plan P before (.ok a : Except ε α) between)
    (hnext : Performs path plan' Q between answer after) : Performs path (plan ++ plan') Q before answer after := by
  obtain ⟨calls, rfl, hfollows, hends⟩ := h
  obtain ⟨calls', rfl, hfollows', hends'⟩ := hnext
  cases hends with
  | ok hvalue hwell =>
      refine ⟨calls ++ calls', List.append_assoc _ _ _, hfollows.append hwell hfollows', ?_⟩
      cases hends' with
      | ok hvalue' hwell' => exact .ok hvalue' (wentWell_append.mpr ⟨hwell, hwell'⟩)
      | error hill => exact .error fun hwell => hill (wentWell_append.mp hwell).2

theorem stop {e : ε} (h : Performs path plan P before (.error e : Except ε α) after) (plan' : List Request) :
    Performs path (plan ++ plan') Q before (.error e : Except ε β) after := by
  obtain ⟨calls, hafter, hfollows, hends⟩ := h
  cases hends with
  | error hill => exact ⟨calls, hafter, hfollows.append_left hill plan', .error hill⟩

end Performs

end MetaParity.Native
