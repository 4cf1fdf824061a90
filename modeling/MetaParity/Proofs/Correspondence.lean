import MetaParity.Listing
import MetaParity.Proofs.Replay

/-! # Correspondences between drivers

A driver uses its import in few ways: it pages, counts, resets and closes cursors and it looks signatures up. What
relates these uses for two listers relates every walk and every scenario. -/

namespace MetaParity

/-- A relation between what two listers do, closed under everything that drivers are built from. -/
structure Correspondence {σ τ : Type} (lister : Lister σ) (lister' : Lister τ) where
  Rel : ∀ {α : Type}, Drive σ α → Drive τ α → Prop
  CursorRel : ∀ {α : Type}, CursorDrive σ α → CursorDrive τ α → Prop
  pure : ∀ {α : Type} (a : α), Rel (pure a) (pure a)
  bind : ∀ {α β : Type} {m : Drive σ α} {m' : Drive τ α} {f : α → Drive σ β} {f' : α → Drive τ β},
    Rel m m' → (∀ a, Rel (f a) (f' a)) → Rel (m >>= f) (m' >>= f')
  fail : ∀ {α : Type} (failure : Failure), failure.isMismatch = false →
    Rel (Drive.fail (α := α) failure) (Drive.fail failure)
  lookup : ∀ token, Rel (lister.lookup token) (lister'.lookup token)
  onCursor : ∀ {α : Type} {body : CursorDrive σ α} {body' : CursorDrive τ α} (query : Query),
    CursorRel body body' →
      Rel (Drive.onCursor lister.session query body) (Drive.onCursor lister'.session query body')
  cursorPure : ∀ {α : Type} (a : α), CursorRel (Pure.pure a) (Pure.pure a)
  cursorBind : ∀ {α β : Type} {m : CursorDrive σ α} {m' : CursorDrive τ α} {f : α → CursorDrive σ β}
    {f' : α → CursorDrive τ β}, CursorRel m m' → (∀ a, CursorRel (f a) (f' a)) → CursorRel (m >>= f) (m' >>= f')
  drain : CursorRel (CursorDrive.drain lister.session lister.capacity)
    (CursorDrive.drain lister'.session lister'.capacity)
  count : CursorRel (CursorDrive.count lister.session) (CursorDrive.count lister'.session)
  reset : ∀ offset, CursorRel (CursorDrive.reset lister.session offset) (CursorDrive.reset lister'.session offset)

theorem Replay.isMismatch_of_check {replay : Replay} {side : Side} {failure : Failure}
    (h : replay.check side = .error failure) : failure.isMismatch = false := by
  obtain ⟨detail, rfl⟩ := exists_detail_of_check h
  rfl

namespace Correspondence

variable {σ τ α β : Type} {lister : Lister σ} {lister' : Lister τ} (k : Correspondence lister lister')

/-! ## Building blocks -/

theorem map {m : Drive σ α} {m' : Drive τ α} (f : α → β) (h : k.Rel m m') : k.Rel (f <$> m) (f <$> m') := by
  rw [map_eq_pure_bind, map_eq_pure_bind]
  exact k.bind h fun a => k.pure (f a)

theorem mapM {f : α → Drive σ β} {f' : α → Drive τ β} (h : ∀ a, k.Rel (f a) (f' a)) (items : List α) :
    k.Rel (items.mapM f) (items.mapM f') := by
  induction items with
  | nil => simpa using k.pure []
  | cons item items ih =>
      rw [List.mapM_cons, List.mapM_cons]
      exact k.bind (h item) fun b => k.bind ih fun bs => k.pure (b :: bs)

/-! ## Flat listings -/

theorem drainAll (query : Query) : k.Rel (lister.drain query) (lister'.drain query) :=
  k.onCursor query k.drain

theorem collect (query : Query) : k.Rel (lister.collect query) (lister'.collect query) := by
  refine k.bind (k.onCursor query ?_) ?_
  · exact k.cursorBind k.drain fun tokens => k.cursorBind k.count fun reported => k.cursorPure (tokens, reported)
  · rintro ⟨tokens, reported⟩
    dsimp only
    split
    · exact k.pure tokens
    · exact k.fail _ rfl

/-! ## Walks -/

mutual

theorem treesBelow : ∀ (walk : Walk) (parent : Token),
    k.Rel (walk.treesBelow lister parent) (walk.treesBelow lister' parent)
  | .category query counted nested, parent => by
      rw [Walk.treesBelow, Walk.treesBelow]
      have hbelow : ∀ token, k.Rel (do return token :: (← Walk.allTreesBelow lister nested token))
          (do return token :: (← Walk.allTreesBelow lister' nested token)) := fun token =>
        k.bind (allTreesBelow nested token) fun below => k.pure (token :: below)
      cases counted with
      | true =>
          exact k.bind (k.collect (query parent)) fun tokens => k.bind (k.mapM hbelow tokens) fun trees =>
            k.pure trees.flatten
      | false =>
          exact k.bind (k.drainAll (query parent)) fun tokens => k.bind (k.mapM hbelow tokens) fun trees =>
            k.pure trees.flatten

theorem allTreesBelow : ∀ (walks : List Walk) (parent : Token),
    k.Rel (Walk.allTreesBelow lister walks parent) (Walk.allTreesBelow lister' walks parent)
  | [], parent => by
      rw [Walk.allTreesBelow, Walk.allTreesBelow]
      exact k.pure []
  | walk :: rest, parent => by
      rw [Walk.allTreesBelow, Walk.allTreesBelow]
      exact k.bind (treesBelow walk parent) fun front => k.bind (allTreesBelow rest parent) fun back =>
        k.pure (front ++ back)

end

theorem compose (top : Query) (walks : List Walk) : k.Rel (lister.compose top walks) (lister'.compose top walks) := by
  refine k.bind (k.collect top) fun parents => k.bind (k.mapM (fun parent => ?_) parents) fun trees => ?_
  · exact k.bind (k.allTreesBelow walks parent) fun below => k.pure (parent :: below)
  · exact k.pure trees.flatten

/-! ## Replays and signatures -/

theorem replay : k.Rel lister.replay lister'.replay := by
  refine k.bind (k.collect .typeDefs) fun types => ?_
  cases types with
  | nil => exact k.pure _
  | cons scope types =>
      refine k.onCursor _ (k.cursorBind k.drain fun first => k.cursorBind k.count fun count => ?_)
      split
      · exact k.cursorPure _
      · exact k.cursorBind (k.reset _) fun _ => k.cursorBind k.drain fun _ => k.cursorBind (k.reset _) fun _ =>
          k.cursorBind k.drain fun _ => k.cursorPure _

theorem check (replay : Replay) (side : Side) :
    k.Rel (Drive.ofExcept fun state => (replay.check side, state))
      (Drive.ofExcept fun state => (replay.check side, state)) := by
  cases h : replay.check side with
  | ok => exact k.pure ()
  | error failure => exact k.fail failure (Replay.isMismatch_of_check h)

theorem resolve (token : Token) : k.Rel (lister.resolve token) (lister'.resolve token) := by
  refine k.bind (k.lookup token) fun blob => ?_
  split
  · exact k.pure _
  · exact k.fail _ rfl

theorem copy (token : Token) : k.Rel (lister.copy token) (lister'.copy token) :=
  k.bind (k.lookup token) fun _ => k.pure _

theorem resolveSignatures : k.Rel lister.resolveSignatures lister'.resolveSignatures :=
  k.bind (k.collect .signatures) fun tokens => k.mapM k.resolve tokens

theorem copySignatures : k.Rel lister.copySignatures lister'.copySignatures :=
  k.bind (k.collect .signatures) fun tokens => k.mapM k.copy tokens

/-! ## Scenarios -/

theorem scenario (scenario : Scenario) (side : Side) (strictReset : Bool) :
    k.Rel (scenario.run lister side strictReset) (scenario.run lister' side strictReset) := by
  cases scenario with
  | typeDefs | typeRefs | typeSpecs | moduleRefs | signatures | userStrings => exact k.map _ (k.collect _)
  | typeHierarchy | members | propertiesEvents => exact k.map _ (k.compose _ _)
  | sigFromToken => exact k.map _ k.resolveSignatures
  | signatureBlobs => exact k.map _ k.copySignatures
  | resetEnum =>
      refine k.bind k.replay fun replay => ?_
      cases strictReset with
      | false => exact k.pure _
      | true => exact k.bind (k.check replay side) fun _ => k.pure _

end Correspondence

end MetaParity
