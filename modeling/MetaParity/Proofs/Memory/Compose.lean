import MetaParity.Model.Synthetic
import MetaParity.Proofs.Memory.Visit
import MetaParity.Proofs.Model.Listing

/-! # Composed walks

A composed walk is a sequence of enumerations in a fixed order. It yields the trees of its top tokens if each of them
succeeds, and otherwise ends with the failure of the first that does not. -/

namespace MetaParity

/-! ## The enumerations of a walk -/

mutual

/-- The enumerations that a category makes below a token of the model: its own, then those below each of its tokens. -/
def Walk.visits (model : Model) : Walk → Token → List Visit
  | category query counted nested, parent =>
    ⟨query parent, counted⟩ :: (model.items (query parent)).flatMap fun token => allVisits model nested token

def Walk.allVisits (model : Model) : List Walk → Token → List Visit
  | [], _ => []
  | walk :: rest, parent => walk.visits model parent ++ allVisits model rest parent

end

def Model.visits (model : Model) (top : Query) (walks : List Walk) : List Visit :=
  ⟨top, true⟩ :: (model.items top).flatMap fun token => Walk.allVisits model walks token

namespace Memory

variable {model : Model} {faults : FaultPlan}

/-! ## Computations that make visits -/

/-- A computation makes the visits in their order. It gives the value if all succeed, and otherwise stops at the first
that fails. -/
structure Follows {α : Type} (model : Model) (faults : FaultPlan) (m : Drive State α) (visits : List Visit) (a : α) :
    Prop where
  completed : (∀ visit ∈ visits, visit.failure? model faults = none) → Enumerates m (.ok a) visits.length
  stopped : ∀ {before after : List Visit} {visit : Visit} {failure : Failure}, visits = before ++ visit :: after →
    (∀ earlier ∈ before, earlier.failure? model faults = none) → visit.failure? model faults = some failure →
    Enumerates m (.error failure) (before.length + 1)

section

variable {α β : Type} {m : Drive State α} {f : α → Drive State β} {visits visits' : List Visit} {a : α} {b : β}

theorem follows_pure (a : α) : Follows model faults (pure a) [] a where
  completed _ := enumerates_pure a
  stopped h := by simp at h

theorem follows_enumerate (model : Model) (hoverrun : faults.pageOverrun = none) (capacity : Nat) (visit : Visit) :
    Follows model faults ((Lister.of (session model faults) capacity).enumerate visit) [visit]
      (model.items visit.query) where
  completed h := by
    have hanswer := Visit.answer_eq_ok_iff.mpr ⟨h visit (List.mem_singleton_self visit), rfl⟩
    rw [← hanswer]
    exact enumerates_enumerate model hoverrun capacity visit
  stopped {before after other failure} hsplit _ hfailure := by
    have hanswer := Visit.answer_eq_error_iff.mpr hfailure
    have hrun := enumerates_enumerate model hoverrun capacity visit
    cases before with
    | nil =>
        obtain ⟨rfl, -⟩ := List.cons.inj hsplit
        rwa [hanswer] at hrun
    | cons earlier before => simp at hsplit

theorem Follows.andThen (hm : Follows model faults m visits a) (hf : Follows model faults (f a) visits' b) :
    Follows model faults (m >>= f) (visits ++ visits') b where
  completed h := by
    obtain ⟨hfirst, hsecond⟩ := List.forall_mem_append.mp h
    rw [List.length_append]
    exact (hm.completed hfirst).andThen (hf.completed hsecond)
  stopped {before after visit failure} hsplit hbefore hfailure := by
    -- The failing visit is one of the first computation, which then stops, or one of the second.
    rcases List.append_eq_append_iff.mp hsplit with ⟨rest, rfl, hrest⟩ | ⟨rest, rfl, hrest⟩
    · obtain ⟨hfirst, hsecond⟩ := List.forall_mem_append.mp hbefore
      rw [List.length_append, Nat.add_assoc]
      exact (hm.completed hfirst).andThen (hf.stopped hrest hsecond hfailure)
    · cases rest with
      | nil =>
          rw [List.append_nil] at hm
          have hstart : visits' = [] ++ visit :: after := hrest.symm
          exact (hm.completed hbefore).andThen (hf.stopped hstart (by simp) hfailure)
      | cons first rest =>
          obtain ⟨rfl, -⟩ := List.cons.inj hrest
          exact (hm.stopped rfl hbefore hfailure).stop f

theorem Follows.andReturn (hm : Follows model faults m visits a) (g : α → β) :
    Follows model faults (m >>= fun a => pure (g a)) visits (g a) := by
  rw [← List.append_nil visits]
  exact hm.andThen (follows_pure (g a))

theorem follows_mapM {g : Token → Drive State β} {visitsOf : Token → List Visit} {value : Token → β}
    (h : ∀ token, Follows model faults (g token) (visitsOf token) (value token)) (tokens : List Token) :
    Follows model faults (tokens.mapM g) (tokens.flatMap visitsOf) (tokens.map value) := by
  induction tokens with
  | nil => exact follows_pure []
  | cons token tokens ih =>
      rw [List.mapM_cons, List.flatMap_cons, List.map_cons]
      exact (h token).andThen (ih.andReturn (value token :: ·))

end

/-- The value of a computation that makes visits, unless one of them fails: then it is the failure of the first. -/
def settle {α : Type} (model : Model) (faults : FaultPlan) (visits : List Visit) (a : α) : Except Failure α :=
  match visits.findSome? (·.failure? model faults) with
  | some failure => .error failure
  | none => .ok a

theorem Follows.exists_enumerates {α : Type} {m : Drive State α} {visits : List Visit} {a : α}
    (h : Follows model faults m visits a) : ∃ count, Enumerates m (settle model faults visits a) count := by
  unfold settle
  cases hfirst : visits.findSome? (·.failure? model faults) with
  | none => exact ⟨_, h.completed (List.findSome?_eq_none_iff.mp hfirst)⟩
  | some failure =>
      obtain ⟨before, visit, after, hsplit, hfailure, hbefore⟩ := List.findSome?_eq_some_iff.mp hfirst
      exact ⟨_, h.stopped hsplit hbefore hfailure⟩

/-! ## Walks -/

mutual

theorem follows_treesBelow (hoverrun : faults.pageOverrun = none) (capacity : Nat) :
    ∀ (walk : Walk) (parent : Token),
      Follows model faults (walk.treesBelow (Lister.of (session model faults) capacity) parent)
        (walk.visits model parent) (walk.listed model parent)
  | .category query counted nested, parent => by
      have hbelow := fun token => (follows_allTreesBelow hoverrun capacity nested token).andReturn (token :: ·)
      rw [Walk.treesBelow, Walk.visits, Walk.listed, List.flatMap_def]
      cases counted with
      | false =>
          exact (follows_enumerate model hoverrun capacity ⟨query parent, false⟩).andThen
            ((follows_mapM hbelow _).andReturn List.flatten)
      | true =>
          exact (follows_enumerate model hoverrun capacity ⟨query parent, true⟩).andThen
            ((follows_mapM hbelow _).andReturn List.flatten)

theorem follows_allTreesBelow (hoverrun : faults.pageOverrun = none) (capacity : Nat) :
    ∀ (walks : List Walk) (parent : Token),
      Follows model faults (Walk.allTreesBelow (Lister.of (session model faults) capacity) walks parent)
        (Walk.allVisits model walks parent) (Walk.allListed model walks parent)
  | [], parent => by
      rw [Walk.allTreesBelow, Walk.allVisits, Walk.allListed]
      exact follows_pure []
  | walk :: rest, parent => by
      rw [Walk.allTreesBelow, Walk.allVisits, Walk.allListed]
      exact (follows_treesBelow hoverrun capacity walk parent).andThen
        ((follows_allTreesBelow hoverrun capacity rest parent).andReturn (walk.listed model parent ++ ·))

end

theorem follows_compose (hoverrun : faults.pageOverrun = none) (capacity : Nat) (top : Query) (walks : List Walk) :
    Follows model faults ((Lister.of (session model faults) capacity).compose top walks) (model.visits top walks)
      ((model.items top).flatMap (model.tree walks)) := by
  have hbelow : ∀ token, Follows model faults _ _ (model.tree walks token) := fun token =>
    (follows_allTreesBelow hoverrun capacity walks token).andReturn (token :: ·)
  rw [Model.visits, List.flatMap_def]
  exact (follows_enumerate model hoverrun capacity ⟨top, true⟩).andThen ((follows_mapM hbelow _).andReturn List.flatten)

/-- A composed walk yields the tree of each top token, or stops at the first of its enumerations that fails on its own,
with the failure of that. Every handle that it opened is closed. -/
theorem compose_walks (model : Model) (top : Query) (walks : List Walk)
    (hlists : ∀ visit ∈ model.visits top walks, visit.counted → (model.items visit.query).length < 0x100000000)
    (capacity : Nat) (state : State) (hstate : state.Numbered) :
    let visits := model.visits top walks
    let trees := (model.items top).flatMap (model.tree walks)
    ((Lister.of (session model {}) capacity).compose top walks).run state =
      (.ok trees, state.enumerated visits.length) ∧
    ∀ faults : FaultPlan, faults.pageOverrun = none →
      let lister := Lister.of (session model faults) capacity
      (∀ (visit : Visit) (earlier : State), earlier.Numbered → (lister.enumerate visit).run earlier =
        ((visit.answer model faults).mapError .failed, earlier.enumerated 1)) ∧
      (∀ query skew, Visit.answer model { faults with countSkew := skew } ⟨query, false⟩ =
        Visit.answer model faults ⟨query, false⟩) ∧
      ((∀ visit ∈ visits, ∃ tokens, visit.answer model faults = .ok tokens) ∧
          (lister.compose top walks).run state = (.ok trees, state.enumerated visits.length) ∨
        ∃ before visit after failure, visits = before ++ visit :: after ∧
          (∀ earlier ∈ before, ∃ tokens, earlier.answer model faults = .ok tokens) ∧
          visit.answer model faults = .error failure ∧
          (lister.compose top walks).run state = (.error (.failed failure), state.enumerated (before.length + 1))) := by
  intro visits trees
  have hfollows : ∀ {faults : FaultPlan}, faults.pageOverrun = none → Follows model faults
      ((Lister.of (session model faults) capacity).compose top walks) visits trees :=
    fun hoverrun => follows_compose hoverrun capacity top walks
  constructor
  · have hnone : ∀ visit ∈ visits, visit.failure? model {} = none :=
      fun visit hmem => Visit.failure?_eq_none rfl rfl (hlists visit hmem)
    exact (hfollows rfl).completed hnone state hstate
  · intro faults hoverrun lister
    refine ⟨fun visit => enumerates_enumerate model hoverrun capacity visit, fun query skew => ?_, ?_⟩
    · simp only [Visit.answer, Visit.failure?, Bool.false_eq_true, false_and, if_false]
      rfl
    · cases hfirst : visits.findSome? (·.failure? model faults) with
      | none =>
          have hnone := List.findSome?_eq_none_iff.mp hfirst
          refine .inl ⟨fun visit hmem => ⟨_, Visit.answer_eq_ok_iff.mpr ⟨hnone visit hmem, rfl⟩⟩, ?_⟩
          exact (hfollows hoverrun).completed hnone state hstate
      | some failure =>
          obtain ⟨before, visit, after, hsplit, hfailure, hbefore⟩ := List.findSome?_eq_some_iff.mp hfirst
          refine .inr ⟨before, visit, after, failure, hsplit, fun earlier hmem => ?_, ?_, ?_⟩
          · exact ⟨_, Visit.answer_eq_ok_iff.mpr ⟨hbefore earlier hmem, rfl⟩⟩
          · exact Visit.answer_eq_error_iff.mpr hfailure
          · exact (hfollows hoverrun).stopped hsplit hbefore hfailure state hstate

/-- A wrong count of members goes unnoticed; what stops the walk is the first page of the fields. -/
theorem compose_walks_skewed :
    let model := Model.synthetic 2 2 1 1
    let walks : List Walk := [.category .members false [.leaf .params], .leaf fun _ => .typeRefs, .leaf .fields]
    let faults : FaultPlan := { countSkew := some (.members, 3), paging := some (.fields, .fail) }
    (∀ visit ∈ model.visits .typeDefs walks, visit.counted → (model.items visit.query).length < 0x100000000) ∧
    ({} : State).Numbered ∧ faults.pageOverrun = none ∧
    ∃ count, ((Lister.of (session model faults) 2).compose .typeDefs walks).run {} =
      (.error (.failed (.pagingFailed (.fields ⟨0x02000002⟩) .fail)), ({} : State).enumerated count) := by
  intro model walks faults
  have hlists : ∀ visit ∈ model.visits .typeDefs walks, visit.counted →
      (model.items visit.query).length < 0x100000000 := by
    decide +kernel
  have hstate : ({} : State).Numbered := State.numbered_of_entries rfl
  refine ⟨hlists, hstate, rfl, ?_⟩
  obtain ⟨-, -, hcases⟩ := (compose_walks model .typeDefs walks hlists 2 {} hstate).2 faults rfl
  have hfirst : (model.visits .typeDefs walks).findSome? (·.failure? model faults) =
      some (.pagingFailed (.fields ⟨0x02000002⟩) .fail) := by
    decide +kernel
  rcases hcases with ⟨hall, -⟩ | ⟨before, visit, after, failure, hsplit, hbefore, hvisit, hrun⟩
  · have hnone : (model.visits .typeDefs walks).findSome? (·.failure? model faults) = none := by
      rw [List.findSome?_eq_none_iff]
      intro visit hmem
      obtain ⟨tokens, hanswer⟩ := hall visit hmem
      exact (Visit.answer_eq_ok_iff.mp hanswer).1
    rw [hfirst] at hnone
    cases hnone
  · have hfailure : (model.visits .typeDefs walks).findSome? (·.failure? model faults) = some failure := by
      refine List.findSome?_eq_some_iff.mpr ⟨before, visit, after, hsplit, Visit.answer_eq_error_iff.mp hvisit, ?_⟩
      intro earlier hmem
      obtain ⟨tokens, hanswer⟩ := hbefore earlier hmem
      exact (Visit.answer_eq_ok_iff.mp hanswer).1
    rw [hfirst] at hfailure
    cases hfailure
    exact ⟨_, hrun⟩

end Memory

end MetaParity
