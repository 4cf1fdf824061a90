import MetaParity.Native.Session
import MetaParity.Proofs.Memory.Serving

/-! # Native sessions that serve a model

A native session serves a model when it answers requests as in-memory sessions do: handles of its own choice, any status
that is no failure for a success, and for a failure the very status. What its callers make of it serves the model then,
however many items they ask for at once. -/

namespace MetaParity

namespace Memory

variable {model : Model} {faults : FaultPlan}

/-! ## Open enumerations -/

namespace Enumeration

def fault? (faults : FaultPlan) (enumeration : Enumeration) : Option Status :=
  (faults.paging.filter (·.1 = enumeration.kind)).map (·.2)

def page (faults : FaultPlan) (capacity : Nat) (enumeration : Enumeration) : Except Status (List Token) × Enumeration :=
  match enumeration.fault? faults with
  | some status => (.error status, enumeration)
  | none =>
    let tokens := (enumeration.items.drop enumeration.position).take capacity
    (.ok tokens, { enumeration with position := enumeration.position + tokens.length })

def count (faults : FaultPlan) (enumeration : Enumeration) : UInt32 :=
  clampCount (enumeration.items.length + ((faults.countSkew.filter (·.1 = enumeration.kind)).map (·.2)).getD 0)

/-- The enumeration so many items from its start, also beyond its end. -/
def reset (faults : FaultPlan) (position : UInt32) (enumeration : Enumeration) : Except Status Unit × Enumeration :=
  match faults.reset with
  | some status => (.error status, enumeration)
  | none => (.ok (), { enumeration with position := position.toNat })

theorem length_page_le {enumeration : Enumeration} {capacity : Nat} {tokens : List Token}
    (h : (enumeration.page faults capacity).1 = .ok tokens) : tokens.length ≤ capacity := by
  unfold page at h
  split at h
  · cases h
  · cases h
    exact List.length_take_le _ _

end Enumeration

def enumerationAt (model : Model) (query : Query) (position : Nat) : Enumeration :=
  ⟨query.kind, model.items query, position⟩

theorem page_enumerationAt (model : Model) (faults : FaultPlan) (query : Query) (position capacity : Nat) :
    ∃ next, ((enumerationAt model query position).page faults capacity).2 = enumerationAt model query next ∧
      Iterator.page model faults capacity ⟨query, some position⟩ =
        (((enumerationAt model query position).page faults capacity).1.mapError (.pagingFailed query),
          ⟨query, some next⟩) := by
  have hfault : Iterator.fault? faults ⟨query, some position⟩ = (enumerationAt model query position).fault? faults := rfl
  unfold Enumeration.page Iterator.page
  rw [hfault]
  cases (enumerationAt model query position).fault? faults with
  | some status => exact ⟨position, rfl, rfl⟩
  | none => exact ⟨_, rfl, rfl⟩

theorem reset_enumerationAt (model : Model) (faults : FaultPlan) (query : Query) (position : Nat) (offset : UInt32) :
    ∃ next, ((enumerationAt model query position).reset faults offset).2 = enumerationAt model query next ∧
      Iterator.reset faults offset ⟨query, some position⟩ =
        (((enumerationAt model query position).reset faults offset).1.mapError (.resetFailed query offset.toNat),
          ⟨query, some next⟩) := by
  unfold Enumeration.reset Iterator.reset
  cases faults.reset with
  | some status => exact ⟨position, rfl, rfl⟩
  | none => exact ⟨offset.toNat, rfl, rfl⟩

end Memory

namespace Native

variable {ω α : Type}

/-! ## Replies -/

/-- What a reply stands for: with any status that is no failure a success and what the reply holds, and otherwise a
failure of its own status. -/
def Reply.Answers (reply : Reply) (value : Reply → α) : Except Status α → Prop
  | .ok a => reply.status.isFailure = false ∧ value reply = a
  | .error status => reply.status = status ∧ status.isFailure

theorem Reply.Answers.result_eq {reply : Reply} {value : Reply → α} {outcome : Except Status α}
    (h : reply.Answers value outcome) : reply.result (value reply) = outcome := by
  unfold result Status.toExcept
  cases outcome with
  | ok a =>
      obtain ⟨hstatus, rfl⟩ := h
      rw [hstatus]
      rfl
  | error status =>
      obtain ⟨rfl, hfailure⟩ := h
      rw [if_pos hfailure]
      rfl

structure Reply.Pages (reply : Reply) (outcome : Except Status (List Token)) : Prop where
  tokens : reply.Answers (·.tokens) outcome
  number : reply.Answers (·.number.toNat) (outcome.map (·.length))

/-! ## Services -/

/-- An object of a component is a session that serves a model: the first page of a query opens an enumeration under a
handle of the component's choice, and calls for open handles answer as in-memory sessions do. Nothing is asked of
handles that are not open. -/
structure Service (component : Component ω) (object : Pointer) (model : Model) (faults : Memory.FaultPlan) where
  Holds : ω → Prop
  enumeration? : ω → Handle → Option Memory.Enumeration
  first : ∀ {s s' reply} (query : Query) {capacity : Nat}, Holds s → capacity ≤ maxCapacity →
    component.answer (.enumerate object (slot query.kind) query.scope? .unopened capacity) s = (reply, s') →
      Holds s' ∧ reply.handle.isOpened ∧
        reply.Pages ((Memory.enumerationAt model query 0).page faults capacity).1 ∧
        enumeration? s' reply.handle = some ((Memory.enumerationAt model query 0).page faults capacity).2
  next : ∀ {s s' reply handle} (query : Query) {position capacity : Nat}, Holds s → capacity ≤ maxCapacity →
    handle.isOpened → enumeration? s handle = some (Memory.enumerationAt model query position) →
    component.answer (.enumerate object (slot query.kind) query.scope? handle capacity) s = (reply, s') →
      Holds s' ∧ reply.handle = handle ∧
        reply.Pages ((Memory.enumerationAt model query position).page faults capacity).1 ∧
        enumeration? s' handle = some ((Memory.enumerationAt model query position).page faults capacity).2
  count : ∀ {s s' reply handle query position}, Holds s → handle.isOpened →
    enumeration? s handle = some (Memory.enumerationAt model query position) →
    component.answer (.count object handle) s = (reply, s') →
      Holds s' ∧ reply.Answers (·.number) (.ok ((Memory.enumerationAt model query position).count faults)) ∧
        enumeration? s' handle = some (Memory.enumerationAt model query position)
  reset : ∀ {s s' reply handle query position} (offset : UInt32), Holds s → handle.isOpened →
    enumeration? s handle = some (Memory.enumerationAt model query position) →
    component.answer (.reset object handle offset) s = (reply, s') →
      Holds s' ∧ reply.Answers (fun _ => ()) ((Memory.enumerationAt model query position).reset faults offset).1 ∧
        enumeration? s' handle = some ((Memory.enumerationAt model query position).reset faults offset).2
  close : ∀ {s s' reply handle query position}, Holds s → handle.isOpened →
    enumeration? s handle = some (Memory.enumerationAt model query position) →
    component.answer (.close object handle) s = (reply, s') → Holds s'
  signature : ∀ {s s' reply} (token : Token), Holds s →
    component.answer (.signature object token) s = (reply, s') →
      Holds s' ∧ reply.Answers (fun reply => ({ bytes := reply.bytes.getD [] } : Blob))
        (Memory.signature model faults token)
  /-- A drain may take as many pages as there are items, and the empty one. -/
  pageLimit : ∀ {s} (query : Query), Holds s → (model.items query).length < component.pageLimit s

namespace Service

variable {component : Component ω} {object : Pointer} {model : Model} {faults : Memory.FaultPlan}
  (service : Service component object model faults)

/-- A cursor on the session that is where an iterator is: not open yet, or at its position. -/
inductive Stands : Memory.Iterator → Cursor × ω → Prop where
  | unopened (query : Query) {s : ω} : service.Holds s → Stands ⟨query, none⟩ (⟨query, .unopened⟩, s)
  | opened {query : Query} {handle : Handle} {position : Nat} {s : ω} : service.Holds s → handle.isOpened →
      service.enumeration? s handle = some (Memory.enumerationAt model query position) →
      Stands ⟨query, some position⟩ (⟨query, handle⟩, s)

variable {service} {iterator : Memory.Iterator} {c : Cursor} {s : ω}

theorem Stands.holds (h : service.Stands iterator (c, s)) : service.Holds s := by
  cases h with
  | unopened _ hs => exact hs
  | opened hs => exact hs

theorem page_of_answer {query : Query} {handle : Handle} {position : Nat} {buffer : Buffer} {s' : ω} {reply : Reply}
    (hreply : component.answer
      (.enumerate object (slot query.kind) query.scope? handle (min buffer.capacity maxCapacity)) s = (reply, s'))
    (hpage : reply.Pages
      ((Memory.enumerationAt model query position).page faults (min buffer.capacity maxCapacity)).1) :
    Cursor.page (component.importOf object) ⟨query, handle⟩ buffer s =
      (((Memory.enumerationAt model query position).page faults (min buffer.capacity maxCapacity)).1.mapError
        (.pagingFailed query), ⟨query, reply.handle⟩, buffer.write reply.tokens, s') := by
  have hcall : (component.importOf object).page handle query buffer.capacity s =
      (⟨reply.handle, reply.tokens, reply.result reply.number.toNat⟩, s') := by
    simp only [Component.importOf, hreply]
  unfold Cursor.page
  rw [hcall, hpage.number.result_eq]
  cases houtcome : ((Memory.enumerationAt model query position).page faults (min buffer.capacity maxCapacity)).1 with
  | error status => rfl
  | ok tokens =>
      rw [houtcome] at hpage
      obtain rfl : reply.tokens = tokens := hpage.tokens.2
      have hfits : reply.tokens.length ≤ buffer.capacity :=
        Nat.le_trans (Memory.Enumeration.length_page_le houtcome) (Nat.min_le_left _ _)
      have hwrite : (buffer.write reply.tokens).capacity = buffer.capacity := rfl
      simp only [Except.map, hwrite, if_neg (Nat.not_lt.mpr hfits), buffer.first_write hfits]
      rfl

theorem stands_of_answer {query : Query} {handle : Handle} {position : Nat} {buffer : Buffer} {s' : ω} {reply : Reply}
    (hreply : component.answer
      (.enumerate object (slot query.kind) query.scope? handle (min buffer.capacity maxCapacity)) s = (reply, s'))
    (hpage : reply.Pages
      ((Memory.enumerationAt model query position).page faults (min buffer.capacity maxCapacity)).1)
    (hs' : service.Holds s') (hopened : reply.handle.isOpened)
    (hleft : service.enumeration? s' reply.handle =
      some ((Memory.enumerationAt model query position).page faults (min buffer.capacity maxCapacity)).2) :
    let moved := Cursor.page (component.importOf object) ⟨query, handle⟩ buffer s
    let iterated := Memory.Iterator.page model faults (min buffer.capacity maxCapacity) ⟨query, some position⟩
    moved.1 = iterated.1 ∧ service.Stands iterated.2 (moved.2.1, moved.2.2.2) ∧ moved.2.1.handle = reply.handle := by
  obtain ⟨next, hnext, hiterated⟩ := Memory.page_enumerationAt model faults query position
    (min buffer.capacity maxCapacity)
  rw [hnext] at hleft
  dsimp only
  rw [page_of_answer hreply hpage, hiterated]
  exact ⟨rfl, .opened hs' hopened hleft, rfl⟩

/-- A page takes the items ahead of a cursor, as many as a request can ask for, and keeps a handle that is open. -/
theorem Stands.page (h : service.Stands iterator (c, s)) (buffer : Buffer) :
    let moved := c.page (component.importOf object) buffer s
    let iterated := iterator.page model faults (min buffer.capacity maxCapacity)
    moved.1 = iterated.1 ∧ service.Stands iterated.2 (moved.2.1, moved.2.2.2) ∧
      (c.isOpened → moved.2.1.handle = c.handle) := by
  have hcapacity := Nat.min_le_right buffer.capacity maxCapacity
  cases h with
  | unopened query hs =>
      rcases hreply : component.answer (.enumerate object (slot query.kind) query.scope? .unopened
        (min buffer.capacity maxCapacity)) s with ⟨reply, s'⟩
      obtain ⟨hs', hopened, hpage, hleft⟩ := service.first query hs hcapacity hreply
      obtain ⟨hresult, hstands, -⟩ := stands_of_answer hreply hpage hs' hopened hleft
      dsimp only
      rw [← Memory.Iterator.page_advance_zero]
      exact ⟨hresult, hstands, fun hunopened => by cases hunopened⟩
  | @opened query handle position s hs hopened hget =>
      rcases hreply : component.answer (.enumerate object (slot query.kind) query.scope? handle
        (min buffer.capacity maxCapacity)) s with ⟨reply, s'⟩
      obtain ⟨hs', rfl, hpage, hleft⟩ := service.next query hs hcapacity hopened hget hreply
      obtain ⟨hresult, hstands, hkept⟩ := stands_of_answer hreply hpage hs' hopened hleft
      exact ⟨hresult, hstands, fun _ => hkept⟩

theorem Stands.count (h : service.Stands iterator (c, s)) :
    (c.count (component.importOf object) s).1 = .ok (iterator.count model faults) ∧
      service.Stands iterator (c, (c.count (component.importOf object) s).2) := by
  cases h with
  | unopened query hs => exact ⟨rfl, .unopened query hs⟩
  | @opened query handle position s hs hopened hget =>
      rcases hreply : component.answer (.count object handle) s with ⟨reply, s'⟩
      obtain ⟨hs', hnumber, hleft⟩ := service.count hs hopened hget hreply
      have hcall : (component.importOf object).count handle s = (reply.result reply.number, s') := by
        simp only [Component.importOf, hreply]
      have hcursor : Cursor.isOpened ⟨query, handle⟩ := hopened
      rw [Cursor.count, if_pos hcursor, hcall, hnumber.result_eq]
      exact ⟨rfl, .opened hs' hopened hleft⟩

theorem Stands.reset (h : service.Stands iterator (c, s)) (offset : UInt32) :
    (c.reset (component.importOf object) offset s).1 = (iterator.reset faults offset).1 ∧
      service.Stands (iterator.reset faults offset).2 (c, (c.reset (component.importOf object) offset s).2) := by
  cases h with
  | unopened query hs => exact ⟨rfl, .unopened query hs⟩
  | @opened query handle position s hs hopened hget =>
      rcases hreply : component.answer (.reset object handle offset) s with ⟨reply, s'⟩
      obtain ⟨hs', hanswer, hleft⟩ := service.reset offset hs hopened hget hreply
      have hcall : (component.importOf object).reset handle offset s = (reply.result (), s') := by
        simp only [Component.importOf, hreply]
      obtain ⟨next, hnext, hiterated⟩ := Memory.reset_enumerationAt model faults query position offset
      rw [hnext] at hleft
      have hcursor : Cursor.isOpened ⟨query, handle⟩ := hopened
      rw [Cursor.reset, if_pos hcursor, hcall, hanswer.result_eq, hiterated]
      exact ⟨rfl, .opened hs' hopened hleft⟩

theorem Stands.close (h : service.Stands iterator (c, s)) : service.Holds (c.close (component.importOf object) s) := by
  cases h with
  | unopened query hs => exact hs
  | @opened query handle _ _ hs hopened hget =>
      have hcursor : Cursor.isOpened ⟨query, handle⟩ := hopened
      rw [Cursor.close, if_pos hcursor]
      exact service.close hs hopened hget rfl

theorem signature_importOf (service : Service component object model faults) (token : Token) (hs : service.Holds s) :
    ((component.importOf object).signature token s).1 = Memory.signature model faults token ∧
      service.Holds ((component.importOf object).signature token s).2 := by
  rcases hreply : component.answer (.signature object token) s with ⟨reply, s'⟩
  obtain ⟨hs', hanswer⟩ := service.signature token hs hreply
  simp only [Component.importOf, hreply]
  exact ⟨hanswer.result_eq, hs'⟩

def serving (service : Service component object model faults) :
    Memory.Serving (component.importOf object) model faults where
  Holds := service.Holds
  Stands := service.Stands
  opens query hs := .unopened query hs
  close h := h.close
  page buffer hcapacity h := by
    obtain ⟨hresult, hstands, -⟩ := h.page buffer
    exact ⟨_, Nat.lt_min.mpr ⟨hcapacity, by decide⟩, hresult, hstands⟩
  count h := h.count
  reset offset h := h.reset offset
  signature token hs := service.signature_importOf token hs
  pageLimit h := Nat.lt_of_le_of_lt (Memory.Iterator.length_rest_le _) (service.pageLimit _ h.holds)

end Service

end Native

end MetaParity
