import MetaParity.Proofs.Native.Traced
import MetaParity.Proofs.Run.Agreement

/-! # The protocol of a verification

The order in which a verification may acquire, use and give back objects, as stages that calls move between. What is held
at a stage is what was acquired up to it and not given back, whatever the libraries answered. -/

namespace MetaParity

/-! ## Steps along a list -/

namespace Along

variable {α σ : Type} {Step : α → σ → σ → Prop} {s s₁ s₂ : σ}

theorem concat {items : List α} {item : α} (h : Along Step items s s₁) (hstep : Step item s₁ s₂) :
    Along Step (items ++ [item]) s s₂ := by
  induction h with
  | nil s => exact .cons hstep (.nil _)
  | cons hfirst _ ih => exact .cons hfirst (ih hstep)

theorem split {before after : List α} {item : α} (h : Along Step (before ++ item :: after) s s₂) :
    ∃ s₁ s₁', Along Step before s s₁ ∧ Step item s₁ s₁' ∧ Along Step after s₁' s₂ := by
  induction before generalizing s with
  | nil =>
      cases h with
      | cons hstep hafter => exact ⟨s, _, .nil s, hstep, hafter⟩
  | cons first before ih =>
      cases h with
      | cons hfirst hrest =>
          obtain ⟨s₁, s₁', hbefore, hstep, hafter⟩ := ih hrest
          exact ⟨s₁, s₁', .cons hfirst hbefore, hstep, hafter⟩

open scoped List in
/-- What steps give and take one by one, they give and take in all. -/
theorem balance {β : Type} {out into : α → Option β} {held : σ → List β} {items : List α}
    (hstep : ∀ item s s', Step item s s' → (out item).toList ++ held s' ~ (into item).toList ++ held s)
    (h : Along Step items s s₁) : items.filterMap out ++ held s₁ ~ items.filterMap into ++ held s := by
  have hcons (f : α → Option β) (item : α) (items : List α) :
      (item :: items).filterMap f = (f item).toList ++ items.filterMap f := by
    cases hitem : f item <;> simp [hitem]
  induction h with
  | nil s => exact .refl _
  | @cons item items s s₁ s₂ hfirst _ ih =>
      rw [hcons, hcons, List.append_assoc, List.append_assoc]
      calc (out item).toList ++ (items.filterMap out ++ held s₂)
        _ ~ (out item).toList ++ (items.filterMap into ++ held s₁) := ih.append_left _
        _ ~ items.filterMap into ++ ((out item).toList ++ held s₁) := List.perm_append_comm_assoc ..
        _ ~ items.filterMap into ++ ((into item).toList ++ held s) := (hstep _ _ _ hfirst).append_left _
        _ ~ (into item).toList ++ (items.filterMap into ++ held s) := List.perm_append_comm_assoc ..

end Along

namespace Native

/-! ## Events -/

abbrev Object := String × Pointer

inductive Event where
  | dispense (dispenser : Option Object)
  | open (dispenser : Object) (session : Option Object)
  /-- An object is called, or handed on. -/
  | use (object : Object)
  | release (interface : Interface) (object : Object)
  | other

namespace Event

/-- The object that is called or handed on, to be given back at last. -/
def target? : Event → Option Object
  | .open object _ | .use object | .release _ object => some object
  | .dispense _ | .other => none

def acquired? : Event → Option Object
  | .dispense object | .open _ object => object
  | _ => none

def released? : Event → Option Object
  | .release _ object => some object
  | _ => none

def dispensed? : Event → Option Object
  | .dispense dispenser => dispenser
  | _ => none

def opened? : Event → Option Object
  | .open _ session => session
  | _ => none

def closed? : Event → Option Object
  | .release .metadataImport session => some session
  | _ => none

end Event

namespace Exchange

/-- The object that is handed over, with whatever status. -/
def handed? (exchange : Exchange) : Option Object :=
  match exchange.request with
  | .factory .. | .openScope .. =>
    if exchange.reply.object.isNull then none else some (exchange.path, exchange.reply.object)
  | _ => none

/-- The object that is handed over by a call that went well. -/
def acquired? (exchange : Exchange) : Option Object :=
  if exchange.reply.status.isFailure then none else exchange.handed?

def event (exchange : Exchange) : Event :=
  match exchange.request with
  | .factory .. => .dispense exchange.acquired?
  | .openScope dispenser .. => .open (exchange.path, dispenser) exchange.acquired?
  | .enumerate object .. | .count object .. | .reset object .. | .close object .. | .signature object ..
  | .prepare _ object => .use (exchange.path, object)
  | .release interface object => .release interface (exchange.path, object)
  | .benchmark .. => .other

theorem acquired?_event (exchange : Exchange) : exchange.event.acquired? = exchange.acquired? := by
  rcases exchange with ⟨path, request, reply⟩
  cases request <;> simp [event, acquired?, handed?, Event.acquired?]

end Exchange

/-! ## Stages -/

/-- Where a verification stands: which dispensers and sessions it holds, and what it does next. -/
inductive Stage where
  | start
  | baselineHeld (baseline : Object)
  | bothHeld (baseline current : Object)
  | baselineOpen (baseline current session : Object)
  | bothOpen (baseline current session session' : Object)
  /-- The current side did not open, and the session of the baseline is to be given back. -/
  | refused (baseline current session : Object)
  /-- The session of the baseline was given back, and that of the current side is to be. -/
  | closing (baseline current session' : Object)
  | leaving (baseline : Object)
  | done

inductive Move : Event → Stage → Stage → Prop where
  | noBaseline : Move (.dispense none) .start .done
  | baseline (b) : Move (.dispense (some b)) .start (.baselineHeld b)
  | noCurrent (b) : Move (.dispense none) (.baselineHeld b) (.leaving b)
  | current (b c) : Move (.dispense (some c)) (.baselineHeld b) (.bothHeld b c)
  | baselineRefuses (b c) : Move (.open b none) (.bothHeld b c) (.bothHeld b c)
  | baselineOpens (b c x) : Move (.open b (some x)) (.bothHeld b c) (.baselineOpen b c x)
  | currentRefuses (b c x) : Move (.open c none) (.baselineOpen b c x) (.refused b c x)
  | currentOpens (b c x y) : Move (.open c (some y)) (.baselineOpen b c x) (.bothOpen b c x y)
  | useBaseline (b c x y) : Move (.use x) (.bothOpen b c x y) (.bothOpen b c x y)
  | useCurrent (b c x y) : Move (.use y) (.bothOpen b c x y) (.bothOpen b c x y)
  | closeRefused (b c x) : Move (.release .metadataImport x) (.refused b c x) (.bothHeld b c)
  | closeBaseline (b c x y) : Move (.release .metadataImport x) (.bothOpen b c x y) (.closing b c y)
  | closeCurrent (b c y) : Move (.release .metadataImport y) (.closing b c y) (.bothHeld b c)
  | leaveCurrent (b c) : Move (.release .dispenser c) (.bothHeld b c) (.leaving b)
  | leaveBaseline (b) : Move (.release .dispenser b) (.leaving b) .done
  /-- The library of the current side could not be asked for a dispenser. -/
  | leaveOnly (b) : Move (.release .dispenser b) (.baselineHeld b) .done

namespace Stage

def sessions : Stage → List Object
  | baselineOpen _ _ x | refused _ _ x | closing _ _ x => [x]
  | bothOpen _ _ x y => [x, y]
  | _ => []

def held : Stage → List Object
  | start | done => []
  | baselineHeld b | leaving b => [b]
  | bothHeld b c => [b, c]
  | baselineOpen b c x | refused b c x | closing b c x => [x, b, c]
  | bothOpen b c x y => [x, y, b, c]

/-- The dispensers that were made up to a stage, unless the verification is about to end. -/
def Knows : Stage → List Object → Prop
  | start, made => made = []
  | baselineHeld b, made => made = [b]
  | bothHeld b c, made | baselineOpen b c _, made | bothOpen b c _ _, made | refused b c _, made
  | closing b c _, made => made = [b, c]
  | leaving _, _ | done, _ => True

end Stage

/-! ## What one event preserves -/

namespace Move

variable {event : Event} {s s' : Stage}

/-- Only what is held is used or given back. -/
theorem target_mem (h : Move event s s') {object : Object} (htarget : event.target? = some object) :
    object ∈ s.held := by
  cases h <;> simp_all [Event.target?, Stage.held]

theorem held_perm (h : Move event s s') :
    (event.released?.toList ++ s'.held).Perm (event.acquired?.toList ++ s.held) := by
  cases h with
  | current b c => exact .swap c b []
  | currentOpens b c x y => exact .swap y x [b, c]
  | leaveCurrent b c => exact .swap b c []
  | _ => exact .refl _

theorem sessions_perm (h : Move event s s') :
    (event.closed?.toList ++ s'.sessions).Perm (event.opened?.toList ++ s.sessions) := by
  cases h with
  | currentOpens b c x y => exact .swap y x []
  | _ => exact .refl _

theorem knows (h : Move event s s') {made : List Object} (hknows : s.Knows made) :
    s'.Knows (made ++ event.dispensed?.toList) := by
  cases h <;> simp_all [Stage.Knows, Event.dispensed?]

theorem opened?_eq_none {s : Stage} (h : Move event s s') (hleaving : s = .done ∨ ∃ b, s = .leaving b) :
    event.opened? = none ∧ s' = .done := by
  rcases hleaving with rfl | ⟨b, rfl⟩
  · cases h
  · cases h with
    | leaveBaseline => exact ⟨rfl, rfl⟩

end Move

/-! ## What a whole run preserves -/

section

variable {events : List Event} {s : Stage}

theorem held_perm_of_along (h : Along Move events .start s) :
    (events.filterMap (·.released?) ++ s.held).Perm (events.filterMap (·.acquired?)) := by
  have hbalance : (events.filterMap (·.released?) ++ s.held).Perm
      (events.filterMap (·.acquired?) ++ Stage.start.held) := h.balance fun _ _ _ => Move.held_perm
  simpa [Stage.held] using hbalance

theorem closed_perm_of_along (h : Along Move events .start s) (hsessions : s.sessions = []) :
    (events.filterMap (·.closed?)).Perm (events.filterMap (·.opened?)) := by
  have hbalance : (events.filterMap (·.closed?) ++ s.sessions).Perm
      (events.filterMap (·.opened?) ++ Stage.start.sessions) := h.balance fun _ _ _ => Move.sessions_perm
  rw [hsessions] at hbalance
  simpa [Stage.sessions] using hbalance

theorem knows_of_along {s₀ : Stage} {made : List Object} (h : Along Move events s₀ s) (hknows : s₀.Knows made) :
    s.Knows (made ++ events.filterMap (·.dispensed?)) := by
  induction h generalizing made with
  | nil => simpa using hknows
  | @cons event events _ _ _ hmove _ ih =>
      have hnext := ih (hmove.knows hknows)
      cases hevent : event.dispensed? <;> simpa [hevent] using hnext

theorem opened_eq_nil_of_along {s₀ : Stage} (h : Along Move events s₀ s)
    (hleaving : s₀ = .done ∨ ∃ b, s₀ = .leaving b) : events.filterMap (·.opened?) = [] := by
  induction h with
  | nil => rfl
  | cons hmove _ ih =>
      obtain ⟨hnone, hdone⟩ := hmove.opened?_eq_none hleaving
      rw [List.filterMap_cons_none hnone]
      exact ih (.inl hdone)

end

/-! ## Reference safety -/

/-- How the calls of a verification treat the objects of the libraries. -/
structure ReferenceSafe (calls : List Exchange) (events : List Event) : Prop where
  released_once : ∀ object ∈ events.filterMap (·.acquired?), (events.filterMap (·.released?)).count object = 1
  /-- An object is used, or given back, only after it was acquired and before it is given back. -/
  used_while_held : ∀ before event after object, events = before ++ event :: after → event.target? = some object →
    object ∈ before.filterMap (·.acquired?) ∧ object ∉ before.filterMap (·.released?)
  refused_unused : ∀ call ∈ calls, ∀ object, call.handed? = some object → call.acquired? = none →
    ∀ event ∈ events, event.target? ≠ some object
  /-- If the current side does not open an image, the session of the baseline is given back at once. -/
  closed_at_refusal : ∀ before current after, events = before ++ .open current none :: after →
    (events.filterMap (·.dispensed?))[1]? = some current →
      ∃ baseline session before' after', (events.filterMap (·.dispensed?))[0]? = some baseline ∧
        before = before' ++ [.open baseline (some session)] ∧
        after = .release .metadataImport session :: after'
  /-- When the baseline is asked to open an image, all sessions that were opened before are given back. -/
  closed_between_images : ∀ before baseline session after, events = before ++ .open baseline session :: after →
    (events.filterMap (·.dispensed?))[0]? = some baseline →
      ∀ opened ∈ before.filterMap (·.opened?), opened ∈ before.filterMap (·.closed?)
  /-- When a dispenser is given back, all sessions that are ever opened are. -/
  dispensers_last : ∀ before dispenser after, events = before ++ .release .dispenser dispenser :: after →
    ∀ session ∈ events.filterMap (·.opened?), session ∈ before.filterMap (·.closed?)

section

variable {calls : List Exchange} {events before after : List Event} {event : Event} {s : Stage}

theorem sublist_filterMap {α β : Type} {f g : α → Option β} (h : ∀ a b, f a = some b → g a = some b) (items : List α) :
    (items.filterMap f).Sublist (items.filterMap g) := by
  induction items with
  | nil => exact .slnil
  | cons item items ih =>
      cases hitem : f item with
      | none =>
          rw [List.filterMap_cons_none hitem]
          cases hother : g item with
          | none => rwa [List.filterMap_cons_none hother]
          | some b =>
              rw [List.filterMap_cons_some hother]
              exact ih.cons b
      | some b =>
          rw [List.filterMap_cons_some hitem, List.filterMap_cons_some (h item b hitem)]
          exact ih.cons_cons b

theorem acquired?_map_event (calls : List Exchange) :
    (calls.map (·.event)).filterMap (·.acquired?) = calls.filterMap (·.acquired?) := by
  rw [List.filterMap_map]
  congr 1
  funext call
  exact call.acquired?_event

theorem handed?_of_acquired? {call : Exchange} {object : Object} (h : call.acquired? = some object) :
    call.handed? = some object := by
  unfold Exchange.acquired? at h
  split at h
  · cases h
  · exact h

theorem nodup_acquired (hdistinct : (calls.filterMap (·.handed?)).Nodup) :
    ((calls.map (·.event)).filterMap (·.acquired?)).Nodup := by
  rw [acquired?_map_event]
  exact hdistinct.sublist (sublist_filterMap (fun _ _ => handed?_of_acquired?) calls)

theorem used_of_along (h : Along Move events .start s) (hdistinct : (events.filterMap (·.acquired?)).Nodup)
    {object : Object} (hevents : events = before ++ event :: after) (htarget : event.target? = some object) :
    object ∈ before.filterMap (·.acquired?) ∧ object ∉ before.filterMap (·.released?) := by
  subst hevents
  obtain ⟨s₁, s₂, hbefore, hmove, -⟩ := h.split
  have hperm := held_perm_of_along hbefore
  have hheld := hmove.target_mem htarget
  have hnodup : (before.filterMap (·.released?) ++ s₁.held).Nodup := by
    rw [hperm.nodup_iff]
    rw [List.filterMap_append] at hdistinct
    exact hdistinct.of_append_left
  constructor
  · exact hperm.subset (List.mem_append_right _ hheld)
  · intro hreleased
    exact List.disjoint_of_nodup_append hnodup hreleased hheld

theorem eq_of_handed {call call' : Exchange} {object : Object} (hdistinct : (calls.filterMap (·.handed?)).Nodup)
    (hmem : call ∈ calls) (hmem' : call' ∈ calls) (hhanded : call.handed? = some object)
    (hhanded' : call'.handed? = some object) : call = call' := by
  obtain ⟨before, after, rfl⟩ := List.append_of_mem hmem
  rw [List.filterMap_append, List.filterMap_cons_some hhanded, List.nodup_middle, List.nodup_cons,
    ← List.filterMap_append] at hdistinct
  by_contra hne
  refine hdistinct.1 (List.mem_filterMap.mpr ⟨call', ?_, hhanded'⟩)
  rcases List.mem_append.mp hmem' with hbefore | hafter
  · exact List.mem_append_left _ hbefore
  · exact List.mem_append_right _ (List.mem_of_ne_of_mem (Ne.symm hne) hafter)

theorem dispensers_ne {b c : Object} (hdistinct : (events.filterMap (·.acquired?)).Nodup)
    (hb : (events.filterMap (·.dispensed?))[0]? = some b) (hc : (events.filterMap (·.dispensed?))[1]? = some c) :
    b ≠ c := by
  have hnodup : (events.filterMap (·.dispensed?)).Nodup := by
    refine hdistinct.sublist (sublist_filterMap ?_ events)
    intro event object hevent
    cases event <;> simp_all [Event.dispensed?, Event.acquired?]
  rintro rfl
  obtain ⟨hzero, hb⟩ := List.getElem?_eq_some_iff.mp hb
  obtain ⟨hone, hc⟩ := List.getElem?_eq_some_iff.mp hc
  exact absurd (hnodup.getElem_inj_iff.mp (hb.trans hc.symm)) (by decide)

theorem dispensers_of_knows {b c : Object} (hbefore : Along Move before .start s)
    (hknows : ∀ made, s.Knows made → made = [b, c]) :
    ((before ++ event :: after).filterMap (·.dispensed?))[0]? = some b ∧
      ((before ++ event :: after).filterMap (·.dispensed?))[1]? = some c := by
  have hmade := hknows _ (knows_of_along hbefore (show Stage.start.Knows [] from rfl))
  rw [List.nil_append] at hmade
  rw [List.filterMap_append, hmade]
  exact ⟨rfl, rfl⟩

theorem opening_of_along {b c x : Object} (h : Along Move before .start (.baselineOpen b c x)) :
    ∃ before', before = before' ++ [.open b (some x)] := by
  rcases List.eq_nil_or_concat before with rfl | ⟨before', last, rfl⟩
  · cases h
  · rw [List.concat_eq_append] at h
    obtain ⟨s₁, s₂, -, hmove, hrest⟩ := h.split
    cases hrest
    cases hmove
    exact ⟨before', List.concat_eq_append⟩

theorem closing_of_along {b c x : Object} (h : Along Move after (.refused b c x) s) (hheld : s.held = []) :
    ∃ after', after = .release .metadataImport x :: after' := by
  cases h with
  | nil => simp [Stage.held] at hheld
  | cons hmove _ =>
      cases hmove
      exact ⟨_, rfl⟩

/-- Whatever moves from stage to stage until nothing is held treats all objects well that are handed over once. -/
theorem referenceSafe_of_along (h : Along Move (calls.map (·.event)) .start s) (hheld : s.held = [])
    (hdistinct : (calls.filterMap (·.handed?)).Nodup) : ReferenceSafe calls (calls.map (·.event)) where
  released_once := by
    intro object hmem
    have hperm := held_perm_of_along h
    rw [hheld, List.append_nil] at hperm
    rw [hperm.count_eq]
    exact List.count_eq_one_of_mem (nodup_acquired hdistinct) hmem
  used_while_held before event after object hevents htarget := used_of_along h (nodup_acquired hdistinct) hevents htarget
  refused_unused := by
    intro call hcall object hhanded hrefused event hevent htarget
    obtain ⟨before, after, hevents⟩ := List.append_of_mem hevent
    have hacquired : object ∈ calls.filterMap (·.acquired?) := by
      rw [← acquired?_map_event, hevents, List.filterMap_append]
      exact List.mem_append_left _ (used_of_along h (nodup_acquired hdistinct) hevents htarget).1
    obtain ⟨call', hcall', hacquired'⟩ := List.mem_filterMap.mp hacquired
    obtain rfl := eq_of_handed hdistinct hcall hcall' hhanded (handed?_of_acquired? hacquired')
    rw [hrefused] at hacquired'
    cases hacquired'
  closed_at_refusal := by
    intro before current after hevents hcurrent
    have hacquired := nodup_acquired hdistinct
    rw [hevents] at h hcurrent hacquired ⊢
    obtain ⟨s₁, s₂, hbefore, hmove, hafter⟩ := h.split
    cases hmove with
    | baselineRefuses b c =>
        obtain ⟨hb, hc⟩ := dispensers_of_knows hbefore fun _ hmade => hmade
        rw [hc] at hcurrent
        exact absurd (Option.some.inj hcurrent).symm (dispensers_ne hacquired hb hc)
    | currentRefuses b c x =>
        obtain ⟨before', rfl⟩ := opening_of_along hbefore
        obtain ⟨after', rfl⟩ := closing_of_along hafter hheld
        exact ⟨b, x, before', after', (dispensers_of_knows hbefore fun _ hmade => hmade).1, rfl, rfl⟩
  closed_between_images := by
    intro before baseline session after hevents hbaseline opened hopened
    have hacquired := nodup_acquired hdistinct
    rw [hevents] at h hbaseline hacquired
    obtain ⟨s₁, s₂, hbefore, hmove, -⟩ := h.split
    have hsessions : s₁.sessions = [] := by
      cases hmove with
      | baselineRefuses | baselineOpens => rfl
      | currentRefuses b c | currentOpens b c =>
          obtain ⟨hb, hc⟩ := dispensers_of_knows hbefore fun _ hmade => hmade
          rw [hb] at hbaseline
          exact absurd (Option.some.inj hbaseline) (dispensers_ne hacquired hb hc)
    exact (closed_perm_of_along hbefore hsessions).symm.subset hopened
  dispensers_last := by
    intro before dispenser after hevents session hsession
    rw [hevents] at h hsession
    obtain ⟨s₁, s₂, hbefore, hmove, hafter⟩ := h.split
    have hstages : s₁.sessions = [] ∧ (s₂ = .done ∨ ∃ b, s₂ = .leaving b) := by
      cases hmove with
      | leaveCurrent b c => exact ⟨rfl, .inr ⟨b, rfl⟩⟩
      | leaveBaseline | leaveOnly => exact ⟨rfl, .inl rfl⟩
    rw [List.filterMap_append, List.filterMap_cons_none rfl, opened_eq_nil_of_along hafter hstages.2,
      List.append_nil] at hsession
    exact (closed_perm_of_along hbefore hstages.1).symm.subset hsession

end

end Native

end MetaParity
