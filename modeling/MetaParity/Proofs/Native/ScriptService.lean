import MetaParity.Native.Script
import MetaParity.Proofs.Lookup
import MetaParity.Proofs.Native.Service

/-! # Scripted sessions that serve a model

Under a script that is faithful to a model every session of the scripted component serves the model, whatever the
statuses of successful calls are. -/

namespace MetaParity

/-- The status of calls that fail with another one, or any that is no failure if they are to go well. -/
def Status.Conveys (status : Status) : Option Status → Prop
  | some failure => status = failure ∧ failure.isFailure
  | none => status.isFailure = false

namespace Native

variable {model : Model} {faults : Memory.FaultPlan} {script : Script} {state : ScriptState} {handle : Handle}
  {listing : OpenListing}

/-! ## Open listings -/

def OpenListing.enumeration (listing : OpenListing) : Memory.Enumeration :=
  ⟨listing.kind, listing.items, listing.position⟩

theorem ScriptState.get?_set (h : state.get? handle = some listing) (next : OpenListing) :
    (state.set handle next).get? handle = some next := by
  have hset := lookup_map_of_key state.enumerations handle.id handle.id fun _ => next
  unfold get? at h
  rw [if_pos rfl, h] at hset
  exact hset

theorem ScriptState.get?_create (state : ScriptState) (listing : OpenListing) :
    (state.create listing).2.get? (state.create listing).1 = some listing :=
  List.lookup_cons_self

theorem find?_slot (kind : Kind) : (Kind.all.find? fun other => slot other = slot kind) = some kind := by
  cases kind <;> rfl

/-! ## Answers of scripts -/

theorem Script.answer_enumerate (script : Script) (object : Pointer) (query : Query) (handle : Handle) (capacity : Nat)
    (state : ScriptState) :
    script.component.answer (.enumerate object (slot query.kind) query.scope? handle capacity) state =
      script.enumerate query.kind (query.scope?.getD .nil) handle capacity state := by
  have hslot := find?_slot query.kind
  simp only [component, answer, hslot]

theorem Script.enumerate_of_get? (hopened : handle.isOpened) (hget : state.get? handle = some listing) (kind : Kind)
    (scope : Token) (capacity : Nat) :
    script.enumerate kind scope handle capacity state = script.page handle listing capacity state := by
  unfold enumerate
  rw [if_pos hopened, hget]

/-! ## Faithful scripts -/

/-- A script that serves what a model holds: calls fail and counts are off where the faults say so, and nowhere else. -/
structure Script.Faithful (script : Script) (model : Model) (faults : Memory.FaultPlan) : Prop where
  items_eq : ∀ query : Query, script.items query.kind (query.scope?.getD .nil) = model.items query
  page : ∀ kind position, (script.pageStatus kind position).Conveys ((faults.paging.filter (·.1 = kind)).map (·.2))
  withoutHandle_eq : script.withoutHandle = []
  overstated_eq : script.overstated = []
  count : script.countStatus.isFailure = false
  countSkew_eq : ∀ kind,
    (script.countSkew.lookup kind).getD 0 = ((faults.countSkew.filter (·.1 = kind)).map (·.2)).getD 0
  countable : ∀ query : Query,
    ((model.items query).length + (script.countSkew.lookup query.kind).getD 0).toNat ≤ maxCapacity
  reset : script.resetStatus.Conveys faults.reset
  signature : ∀ token, (script.signature token).Answers (fun reply => ({ bytes := reply.bytes.getD [] } : Blob))
    (Memory.signature model faults token)
  size_le : model.size ≤ script.size

namespace Script.Faithful

theorem pages (h : script.Faithful model faults) (hget : state.get? handle = some listing) {capacity : Nat}
    (hcapacity : capacity ≤ maxCapacity) :
    (script.page handle listing capacity state).1.handle = handle ∧
      (script.page handle listing capacity state).1.Pages (listing.enumeration.page faults capacity).1 ∧
      ((script.page handle listing capacity state).2.get? handle).map OpenListing.enumeration =
        some (listing.enumeration.page faults capacity).2 := by
  have hstatus : (script.pageStatus listing.kind listing.pages).Conveys (listing.enumeration.fault? faults) :=
    h.page listing.kind listing.pages
  unfold Script.page Memory.Enumeration.page
  dsimp only
  cases hfault : listing.enumeration.fault? faults with
  | some status =>
      rw [hfault] at hstatus
      obtain ⟨hfails, hfailure⟩ := hstatus
      rw [hfails, if_pos hfailure]
      refine ⟨rfl, ⟨⟨rfl, hfailure⟩, ⟨rfl, hfailure⟩⟩, ?_⟩
      dsimp only
      rw [ScriptState.get?_set hget]
      rfl
  | none =>
      rw [hfault] at hstatus
      have hsuccess : (script.pageStatus listing.kind listing.pages).isFailure = false := hstatus
      have hfits : ((listing.items.drop listing.position).take capacity).length ≤ maxCapacity :=
        Nat.le_trans (List.length_take_le _ _) hcapacity
      have hnumber : (UInt32.ofNat ((listing.items.drop listing.position).take capacity).length).toNat =
          ((listing.items.drop listing.position).take capacity).length :=
        UInt32.toNat_ofNat_of_lt (Nat.lt_of_le_of_lt hfits (by decide))
      rw [hsuccess, h.overstated_eq]
      simp only [Bool.false_eq_true, if_false, List.lookup_nil, Option.getD_none, ite_self, Nat.add_zero]
      refine ⟨trivial, ⟨⟨hsuccess, rfl⟩, ⟨hsuccess, hnumber⟩⟩, ?_⟩
      rw [ScriptState.get?_set hget]
      rfl

theorem resets (h : script.Faithful model faults) (hget : state.get? handle = some listing) (offset : UInt32) :
    (script.reset handle offset state).1.Answers (fun _ => ()) (listing.enumeration.reset faults offset).1 ∧
      ((script.reset handle offset state).2.get? handle).map OpenListing.enumeration =
        some (listing.enumeration.reset faults offset).2 := by
  have hstatus := h.reset
  unfold Script.reset Memory.Enumeration.reset
  rw [hget]
  dsimp only
  cases hfault : faults.reset with
  | some status =>
      rw [hfault] at hstatus
      obtain ⟨hfails, hfailure⟩ := hstatus
      rw [hfails, if_pos hfailure, hget]
      exact ⟨⟨rfl, hfailure⟩, rfl⟩
  | none =>
      rw [hfault] at hstatus
      have hsuccess : script.resetStatus.isFailure = false := hstatus
      rw [hsuccess, if_neg Bool.false_ne_true, ScriptState.get?_set hget]
      exact ⟨⟨hsuccess, rfl⟩, rfl⟩

/-- The number that a count of the script gives fits 32 bits, so it is the clamped one. -/
theorem number_count (h : script.Faithful model faults) (query : Query) (position : Nat) :
    UInt32.ofNat ((model.items query).length + (script.countSkew.lookup query.kind).getD 0).toNat =
      (Memory.enumerationAt model query position).count faults := by
  have hclamped : (Memory.enumerationAt model query position).count faults =
      Memory.clampCount ((model.items query).length + (script.countSkew.lookup query.kind).getD 0) := by
    rw [h.countSkew_eq]
    rfl
  have hfits : _ ≤ 0xffffffff := h.countable query
  rw [hclamped, Memory.clampCount, Nat.min_eq_left hfits]

theorem enumerate_unopened (h : script.Faithful model faults) (query : Query) (capacity : Nat) (state : ScriptState) :
    script.enumerate query.kind (query.scope?.getD .nil) .unopened capacity state =
      let listing : OpenListing := { kind := query.kind, items := model.items query }
      script.page (state.create listing).1 listing capacity (state.create listing).2 := by
  unfold enumerate
  rw [h.withoutHandle_eq, h.items_eq]
  rfl

/-- Every object of the component is a session that serves the model. -/
def service (h : script.Faithful model faults) (object : Pointer) : Service script.component object model faults where
  Holds _ := True
  enumeration? state handle := (state.get? handle).map OpenListing.enumeration
  first {state state' reply} query capacity _ hcapacity hreply := by
    obtain ⟨hhandle, hpages, hleft⟩ :=
      h.pages (state.get?_create { kind := query.kind, items := model.items query }) hcapacity
    rw [answer_enumerate, h.enumerate_unopened] at hreply
    dsimp only at hreply
    rw [hreply] at hhandle hpages hleft
    rw [hhandle]
    exact ⟨trivial, rfl, hpages, hleft⟩
  next {state state' reply handle} query position capacity _ hcapacity hopened hget hreply := by
    obtain ⟨listing, hlisting, heq⟩ := Option.map_eq_some_iff.mp hget
    have hpages := h.pages hlisting hcapacity
    rw [answer_enumerate, enumerate_of_get? hopened hlisting] at hreply
    rw [hreply, heq] at hpages
    exact ⟨trivial, hpages⟩
  count {state state' reply handle query position} _ _ hget hreply := by
    obtain ⟨⟨kind, items, held, turns⟩, hlisting, heq⟩ := Option.map_eq_some_iff.mp hget
    obtain ⟨rfl, rfl, rfl⟩ := Memory.Enumeration.mk.inj heq
    have hcount : script.count handle state =
        { status := script.countStatus, number := (Memory.enumerationAt model query held).count faults } := by
      rw [← h.number_count, Script.count, hlisting]
    obtain ⟨rfl, rfl⟩ := Prod.mk.inj hreply
    rw [hcount]
    exact ⟨trivial, ⟨h.count, rfl⟩, hget⟩
  reset {state state' reply handle query position} offset _ _ hget hreply := by
    obtain ⟨listing, hlisting, heq⟩ := Option.map_eq_some_iff.mp hget
    have hresets := h.resets hlisting offset
    change script.reset handle offset state = _ at hreply
    rw [hreply, heq] at hresets
    exact ⟨trivial, hresets⟩
  close _ _ _ _ := trivial
  signature {state state' reply} token _ hreply := by
    cases hreply
    exact ⟨trivial, h.signature token⟩
  pageLimit query _ := Nat.lt_succ_of_le (Nat.le_trans (model.length_items_le query) h.size_le)

end Script.Faithful

/-! ## Scripts of a model -/

theorem Script.items_eq_nil {query : Query} (h : hasListing model query.kind (query.scope?.getD .nil) = false) :
    model.items query = [] := by
  cases query with
  | typeDefs | typeRefs | typeSpecs | moduleRefs | signatures | userStrings => cases h
  | interfaceImpls token | methods token | fields token | members token | properties token | events token =>
      have htype : model.type? token = none := by simpa [hasListing, Query.kind, Query.scope?] using h
      simp [Model.items, Model.below, htype]
  | params token =>
      have hmethod : model.method? token = none := by simpa [hasListing, Query.kind, Query.scope?] using h
      simp [Model.items, hmethod]

theorem Script.items_of_model (hmodel : script.model = some model) (hlistings : script.listings = []) (query : Query) :
    script.items query.kind (query.scope?.getD .nil) = model.items query := by
  have hquery : Query.ofKind query.kind (query.scope?.getD .nil) = query := by
    cases query <;> rfl
  unfold items
  rw [hmodel, hlistings]
  cases hlisting : hasListing model query.kind (query.scope?.getD .nil) with
  | true => simp [Option.filter, hlisting, hquery]
  | false => simp [Option.filter, hlisting, items_eq_nil hlisting]

theorem Script.signature_of_model (hmodel : script.model = some model) (hsignatures : script.signatures = [])
    (hlookup : faults.lookup = none) (token : Token) :
    (script.signature token).Answers (fun reply => ({ bytes := reply.bytes.getD [] } : Blob))
      (Memory.signature model faults token) := by
  unfold signature Memory.signature
  rw [hmodel, hsignatures, hlookup]
  dsimp only [Option.bind, List.reverse_nil, List.lookup_nil]
  cases model.blob? token with
  | some bytes => exact ⟨rfl, rfl⟩
  | none => exact ⟨rfl, rfl⟩

end Native

end MetaParity
