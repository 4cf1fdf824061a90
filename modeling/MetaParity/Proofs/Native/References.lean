import MetaParity.Native.Script
import MetaParity.Proofs.Command.Matching
import MetaParity.Proofs.Native.Protocol

/-! # References are released exactly once

Whatever the libraries answer and however a verification ends, its calls follow the protocol and leave nothing held. -/

namespace MetaParity

variable {σ ω : Type}

namespace Native

def At (stage : Stage) (state : σ × List Exchange) : Prop :=
  Along Move (state.2.map (·.event)) .start stage

def Stays (P : σ → Prop) (s t : σ) : Prop :=
  s = t ∧ P s

variable {stage next refused : Stage} {state : σ × List Exchange} {path path' : String}

/-! ## Calls -/

theorem At.call (h : At stage state) (component : Component σ) {request : Request}
    (hmove : Move (⟨path, request, (component.answer request state.1).1⟩ : Exchange).event stage next) :
    At next ((component.tracedAt path).answer request state).2 := by
  have hcalls : ((component.tracedAt path).answer request state).2.2.map (·.event) =
      state.2.map (·.event) ++ [(⟨path, request, (component.answer request state.1).1⟩ : Exchange).event] := by
    simp [Component.tracedAt]
  unfold At
  rw [hcalls]
  exact h.concat hmove

theorem At.release (h : At stage state) (component : Component σ) {interface : Interface} {object : Pointer}
    (hmove : Move (.release interface (path, object)) stage next) :
    At next ((component.tracedAt path).release interface object state) :=
  h.call component hmove

theorem At.handOver {ε α : Type} (h : At stage state) (component : Component σ) {request : Request}
    {event : Option Object → Event}
    (hevent : ∀ reply : Reply, (⟨path, request, reply⟩ : Exchange).event = event
      (if reply.status.isFailure then none else if reply.object.isNull then none else some (path, reply.object)))
    (hrefused : Move (event none) stage refused) {acquired : Object → Stage}
    (hacquired : ∀ object, Move (event (some object)) stage (acquired object)) {failed : Status → ε} {null : ε}
    {value : Pointer → α} {answer : Except ε α} {state' : σ × List Exchange}
    (hrun : handOver failed null value ((component.tracedAt path).answer request) state = (answer, state')) :
    (∃ error, answer = .error error ∧ At refused state') ∨
      ∃ object, answer = .ok (value object) ∧ At (acquired (path, object)) state' := by
  let reply := (component.answer request state.1).1
  have hcall (next : Stage) (hmove : Move (⟨path, request, reply⟩ : Exchange).event stage next) :
      At next ((component.tracedAt path).answer request state).2 := h.call component hmove
  have hthis := hevent reply
  change (if reply.status.isFailure then (.error (failed reply.status), ((component.tracedAt path).answer request state).2)
    else if reply.object.isNull then (.error null, ((component.tracedAt path).answer request state).2)
    else (.ok (value reply.object), ((component.tracedAt path).answer request state).2)) = (answer, state') at hrun
  by_cases hfailure : reply.status.isFailure
  · rw [if_pos hfailure] at hthis hrun
    cases hrun
    exact .inl ⟨_, rfl, hcall refused (hthis ▸ hrefused)⟩
  · rw [if_neg hfailure] at hthis hrun
    by_cases hnull : reply.object.isNull
    · rw [if_pos hnull] at hthis hrun
      cases hrun
      exact .inl ⟨_, rfl, hcall refused (hthis ▸ hrefused)⟩
    · rw [if_neg hnull] at hthis hrun
      cases hrun
      exact .inr ⟨reply.object, rfl, hcall _ (hthis ▸ hacquired _)⟩

theorem At.acquire (h : At stage state) {libraries : Libraries σ} {factory : Factory} {side : Side}
    (hrefused : Move (.dispense none) stage refused) {acquired : Object → Stage}
    (hacquired : ∀ object, Move (.dispense (some object)) stage (acquired object))
    {answer : Except LibraryError (HeldDispenser (σ × List Exchange))} {state' : σ × List Exchange}
    (hrun : factory.acquire libraries.traced side state = (answer, state')) :
    (∃ error, answer = .error error ∧ (At stage state' ∨ At refused state')) ∨
      ∃ (component : Component σ) (path : String) (object : Pointer),
        answer = .ok ((component.tracedAt path).heldDispenser side object) ∧ At (acquired (path, object)) state' := by
  unfold Factory.acquire Library.load Libraries.traced at hrun
  revert hrun
  cases libraries factory.library with
  | none =>
      rintro ⟨⟩
      exact .inl ⟨_, rfl, .inl h⟩
  | some component =>
      intro hrun
      let library : Library (σ × List Exchange) := ⟨factory.library, component.tracedAt factory.library⟩
      change library.dispenser side factory.symbol factory.abi state = _ at hrun
      cases hrequire : library.require factory.symbol with
      | error error =>
          unfold Library.dispenser at hrun
          rw [hrequire] at hrun
          cases hrun
          exact .inl ⟨_, rfl, .inl h⟩
      | ok =>
          rw [Library.dispenser_of_require hrequire] at hrun
          rcases h.handOver component (fun _ => rfl) hrefused hacquired hrun with
            ⟨error, rfl, hrefused⟩ | ⟨object, rfl, hacquired⟩
          · exact .inl ⟨error, rfl, .inr hrefused⟩
          · exact .inr ⟨component, factory.library, object, rfl, hacquired⟩

theorem At.importOf (component : Component σ) {object : Pointer} (huse : Move (.use (path, object)) stage stage) :
    ((component.tracedAt path).importOf object).Matches (Stays (At stage)) ((component.tracedAt path).importOf object) where
  page := by
    rintro handle query capacity s _ ⟨rfl, h⟩
    exact ⟨rfl, rfl, h.call component huse⟩
  count := by
    rintro handle s _ ⟨rfl, h⟩
    exact ⟨rfl, rfl, h.call component huse⟩
  reset := by
    rintro handle position s _ ⟨rfl, h⟩
    exact ⟨rfl, rfl, h.call component huse⟩
  close := by
    rintro handle s _ ⟨rfl, h⟩
    exact ⟨rfl, h.call component huse⟩
  signature := by
    rintro token s _ ⟨rfl, h⟩
    exact ⟨rfl, rfl, h.call component huse⟩
  pageLimit := by
    rintro s _ ⟨rfl, -⟩
    rfl

theorem At.openSession (h : At stage state) {component : Component σ} {object : Pointer} {side : Side} {image : Bytes}
    (hlength : image.length ≤ maxCapacity) (hrefused : Move (.open (path, object) none) stage refused)
    {acquired : Object → Stage}
    (hacquired : ∀ session, Move (.open (path, object) (some session)) stage (acquired session))
    {answer : Except Failure (Session (σ × List Exchange))} {state' : σ × List Exchange}
    (hrun : ((component.tracedAt path).dispenserOf side object).openScope image state = (answer, state')) :
    (∃ failure, answer = .error failure ∧ At refused state') ∨
      ∃ session, answer = .ok ((component.tracedAt path).sessionOf session) ∧
        At (acquired (path, session)) state' := by
  rw [Component.openScope_dispenserOf _ _ _ hlength] at hrun
  exact h.handOver component (fun _ => rfl) hrefused hacquired hrun

/-! ## Images -/

section

variable (component component' : Component σ) (path path' : String) (object object' : Pointer)

def tracedDispensers : DispenserPair (σ × List Exchange) where
  baseline := (component.tracedAt path).dispenserOf .baseline object
  current := (component'.tracedAt path').dispenserOf .current object'

theorem At.openScope (h : At (.bothHeld (path, object) (path', object')) state) {image : Bytes}
    {answer : Except Failure (SessionPair (σ × List Exchange))} {state' : σ × List Exchange}
    (hrun : (tracedDispensers component component' path path' object object').openScope image state =
      (answer, state')) :
    (∃ failure, answer = .error failure ∧ At (.bothHeld (path, object) (path', object')) state') ∨
      ∃ session session', answer = .ok ⟨(component.tracedAt path).sessionOf session,
          (component'.tracedAt path').sessionOf session'⟩ ∧
        At (.bothOpen (path, object) (path', object') (path, session) (path', session')) state' := by
  unfold DispenserPair.openScope tracedDispensers at hrun
  dsimp only at hrun
  rcases hopen : ((component.tracedAt path).dispenserOf .baseline object).openScope image state with ⟨opened, s⟩
  rw [hopen] at hrun
  by_cases hlength : image.length ≤ maxCapacity
  · rcases h.openSession hlength (.baselineRefuses _ _) (.baselineOpens _ _) hopen with
      ⟨failure, rfl, hrefused⟩ | ⟨session, rfl, hopened⟩
    · cases hrun
      exact .inl ⟨failure, rfl, hrefused⟩
    · dsimp only at hrun
      rcases hopen' : ((component'.tracedAt path').dispenserOf .current object').openScope image s with ⟨opened', s'⟩
      rw [hopen'] at hrun
      rcases hopened.openSession hlength (.currentRefuses _ _ _) (.currentOpens _ _ _) hopen' with
        ⟨failure, rfl, hrefused⟩ | ⟨session', rfl, hopened⟩
      · cases hrun
        exact .inl ⟨failure, rfl, hrefused.release component (.closeRefused _ _ _)⟩
      · cases hrun
        exact .inr ⟨session, session', rfl, hopened⟩
  · have htoolong : ((component.tracedAt path).dispenserOf .baseline object).openScope image state =
        (.error (.openFailed (Side.baseline.name ++ " OpenScopeOnMemory") .invalidArgument), state) :=
      if_pos (Nat.lt_of_not_le hlength)
    rw [htoolong] at hopen
    cases hopen
    cases hrun
    exact .inl ⟨_, rfl, h⟩

theorem image_stays (config : RunConfig) (name : String) (bytes : Bytes) :
    let dispensers := tracedDispensers component component' path path' object object'
    Matching (Stays (At (.bothHeld (path, object) (path', object')))) Eq (Run.image config name dispensers bytes).run
      (Run.image config name dispensers bytes).run := by
  rintro dispensers s _ ⟨rfl, h⟩
  refine ⟨rfl, rfl, ?_⟩
  unfold Run.image
  rw [OptionT.run_mk]
  rcases hopen : dispensers.openScope bytes s with ⟨answer, s₁⟩
  rcases h.openScope component component' path path' object object' hopen with
    ⟨failure, rfl, hrefused⟩ | ⟨session, session', rfl, hopened⟩
  · exact hrefused
  · let pair : SessionPair (σ × List Exchange) :=
      ⟨(component.tracedAt path).sessionOf session, (component'.tracedAt path').sessionOf session'⟩
    have hlists : ∀ side, (pair.session side).toImport.ListsAlike
        (Stays (At (.bothOpen (path, object) (path', object') (path, session) (path', session'))))
        (pair.session side).toImport := by
      intro side
      cases side with
      | baseline => exact (At.importOf component (.useBaseline _ _ _ _)).listsAlike
      | current => exact (At.importOf component' (.useCurrent _ _ _ _)).listsAlike
    obtain ⟨-, -, hdriven⟩ := Run.matching_sessions hlists config name s₁ s₁ ⟨rfl, hopened⟩
    exact (hdriven.release component (.closeBaseline _ _ _ _)).release component' (.closeCurrent _ _ _)

end

end Native

/-! ## Verifications -/

namespace Command

open Native

theorem native_withDispenser {α : Type} (P : ω → Prop) {libraries : Libraries ω} {side : Side} {factory : Factory}
    {action : HeldDispenser ω → Action ω α} {world : World ω}
    (herror : ∀ error s, factory.acquire libraries side world.native = (.error error, s) → P s)
    (hok : ∀ dispenser s, factory.acquire libraries side world.native = (.ok dispenser, s) →
      P (dispenser.release ((action dispenser).run { world with native := s }).2.native)) :
    P ((withDispenser libraries side factory action).run world).2.native := by
  have hrun : (Action.callOrEnd (.noDispenser side factory.library) (factory.acquire libraries side)).run world =
      ((factory.acquire libraries side world.native).1.mapError (.noDispenser side factory.library),
        { world with native := (factory.acquire libraries side world.native).2 }) := rfl
  unfold withDispenser
  rw [run_bindExcept, hrun]
  rcases hacquire : factory.acquire libraries side world.native with ⟨error | dispenser, s⟩
  · exact herror error s hacquire
  · exact hok dispenser s hacquire

variable {libraries : Libraries σ} {settings : VerifySettings} {startedAt : String} {world : World (σ × List Exchange)}

theorem verifyWith_stays {component component' : Component σ} {path path' : String} {object object' : Pointer}
    (h : At (.bothHeld (path, object) (path', object')) world.native) :
    At (.bothHeld (path, object) (path', object')) ((verifyWith settings startedAt
      (tracedDispensers component component' path path' object object')).run world).2.native :=
  (matches_verifyWith (image_stays component component' path path' object object' settings.run) rfl startedAt
    world world ⟨rfl, rfl, rfl, h⟩).2.native.2

theorem withCurrent_ends {component : Component σ} {path : String} {object : Pointer}
    (h : At (.baselineHeld (path, object)) world.native) :
    let rest := withDispenser libraries.traced .current settings.current fun current =>
      verifyWith settings startedAt ⟨(component.tracedAt path).dispenserOf .baseline object, current.toDispenser⟩
    At (.baselineHeld (path, object)) (rest.run world).2.native ∨
      At (.leaving (path, object)) (rest.run world).2.native := by
  refine native_withDispenser (fun s => At (.baselineHeld (path, object)) s ∨ At (.leaving (path, object)) s) ?_ ?_
  · intro error s hacquire
    rcases h.acquire (.noCurrent _) (.current _) hacquire with ⟨_, -, hends⟩ | ⟨_, _, _, hdispenser, -⟩
    · exact hends
    · cases hdispenser
  · intro dispenser s hacquire
    rcases h.acquire (.noCurrent _) (.current _) hacquire with
      ⟨_, herror, -⟩ | ⟨component', path', object', hdispenser, hheld⟩
    · cases herror
    · cases hdispenser
      exact .inr ((verifyWith_stays hheld).release component' (.leaveCurrent _ _))

theorem verify_ends (h : At .start world.native) :
    ∃ stage : Stage, At stage ((verify libraries.traced settings startedAt).run world).2.native ∧ stage.held = [] := by
  refine native_withDispenser (fun s => ∃ stage : Stage, At stage s ∧ stage.held = []) ?_ ?_
  · intro error s hacquire
    rcases h.acquire .noBaseline .baseline hacquire with ⟨_, -, hstart | hdone⟩ | ⟨_, _, _, hdispenser, -⟩
    · exact ⟨_, hstart, rfl⟩
    · exact ⟨_, hdone, rfl⟩
    · cases hdispenser
  · intro dispenser s hacquire
    rcases h.acquire .noBaseline .baseline hacquire with ⟨_, herror, -⟩ | ⟨component, path, object, hdispenser, hheld⟩
    · cases herror
    · cases hdispenser
      refine ⟨.done, ?_, rfl⟩
      have hafter : At (.baselineHeld (path, object)) { world with native := s }.native := hheld
      rcases withCurrent_ends hafter with hbaseline | hleaving
      · exact hbaseline.release component (.leaveOnly _)
      · exact hleaving.release component (.leaveBaseline _)

/-- If every object that the libraries hand over is another one, a verification gives every object that it acquires back
exactly once, however it ends, and uses none outside of that time. -/
theorem verify_referenceSafe (libraries : Libraries σ) (settings : VerifySettings) (startedAt : String) (files : Files)
    (console : Console) (s : σ) :
    let run := (verify libraries.traced settings startedAt).run { files, console, native := (s, []) }
    let calls := run.2.native.2
    run.1 = ((verify libraries settings startedAt).run { files, console, native := s }).1 ∧
      ((calls.filterMap (·.handed?)).Nodup → ReferenceSafe calls (calls.map (·.event))) := by
  intro run calls
  constructor
  · exact alike_eq_iff.mp (matches_verify libraries.alike_traced settings startedAt
      { files, console, native := (s, []) } { files, console, native := s } ⟨rfl, rfl, rfl⟩).1
  · intro hdistinct
    obtain ⟨stage, hends, hheld⟩ := @verify_ends σ libraries settings startedAt
      { files, console, native := (s, []) } (.nil _)
    exact referenceSafe_of_along hends hheld hdistinct

/-- Two images, one of which the current side does not open. -/
theorem verify_referenceSafe_refused :
    let script : Script := { listings := [(.typeDefs, .nil, [⟨0x02000002⟩])] }
    let libraries : Libraries ScriptState := fun path =>
      some (if path = "b.so" then { script with openByLength := [(4, .fail)] } else script).component
    let settings : VerifySettings :=
      { images := ["x", "y"], imagesDirectory := none, baseline := .ofSide .baseline "a.so",
        current := .ofSide .current "b.so", run := { scenarios := [.typeDefs] }, failFast := false, format := .human,
        output := none, showPassed := false }
    let files : Files := .ofLists [] [("x", [0x42, 0x53, 0x4a, 0x42]), ("y", [0x42, 0x53, 0x4a, 0x42, 0x00])]
    ∃ calls, ((verify libraries.traced settings "").run { files, native := ({}, []) }).2.native.2 = calls ∧
      (calls.filterMap (·.handed?)).Nodup ∧
      (calls.filterMap (·.acquired?)) = [("a.so", ⟨1⟩), ("b.so", ⟨2⟩), ("a.so", ⟨3⟩), ("a.so", ⟨4⟩), ("b.so", ⟨5⟩)] ∧
      ReferenceSafe calls (calls.map (·.event)) := by
  intro script libraries settings files
  have hdistinct : (((verify libraries.traced settings "").run { files, native := ({}, []) }).2.native.2.filterMap
      (·.handed?)).Nodup := by
    decide +kernel
  have hacquired : ((verify libraries.traced settings "").run { files, native := ({}, []) }).2.native.2.filterMap
      (·.acquired?) = [("a.so", ⟨1⟩), ("b.so", ⟨2⟩), ("a.so", ⟨3⟩), ("a.so", ⟨4⟩), ("b.so", ⟨5⟩)] := by
    decide +kernel
  exact ⟨_, rfl, hdistinct, hacquired, (verify_referenceSafe libraries settings "" files [] {}).2 hdistinct⟩

end Command

end MetaParity
