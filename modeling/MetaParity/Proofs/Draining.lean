import MetaParity.Proofs.Run.Traced

/-! # Drains into a list

A drain appends the pages that its page calls hand over, in the order of the calls, and nothing else, however it ends.
All of it is told by the replies to these calls, whatever import they come from. -/

namespace MetaParity

variable {σ : Type}

/-! ## Pages and failures of replies -/

@[simp] theorem Buffer.capacity_write (buffer : Buffer) (tokens : List Token) :
    (buffer.write tokens).capacity = buffer.capacity := rfl

@[simp] theorem Buffer.length_first (buffer : Buffer) (count : Nat) : (buffer.first count).length = count := by
  rw [first, List.length_append, List.length_take, List.length_replicate]
  omega

namespace PageReply

/-- What a reply hands over through a buffer: as many tokens as it claims, and nothing if it fails or claims more than
the buffer holds. -/
def page? (buffer : Buffer) (reply : PageReply) : Option (List Token) :=
  match reply.outcome with
  | .error _ => none
  | .ok returned => if returned ≤ buffer.capacity then some ((buffer.write reply.written).first returned) else none

def failure? (query : Query) (capacity : Nat) (reply : PageReply) : Option Failure :=
  match reply.outcome with
  | .error status => some (.pagingFailed query status)
  | .ok returned => if returned ≤ capacity then none else some (.pageOverrun query returned capacity)

def pages : Buffer → List PageReply → List (List Token)
  | _, [] => []
  | buffer, reply :: replies => (reply.page? buffer).toList ++ pages (buffer.write reply.written) replies

/-- The page calls of one cursor that got these replies, each made with the handle that the call before wrote back. -/
def calls (query : Query) (capacity : Nat) : Handle → List PageReply → List Call
  | _, [] => []
  | handle, reply :: replies => .page handle query capacity reply :: calls query capacity reply.handle replies

@[simp] theorem length_calls (query : Query) (capacity : Nat) (handle : Handle) (replies : List PageReply) :
    (calls query capacity handle replies).length = replies.length := by
  induction replies generalizing handle with
  | nil => rfl
  | cons reply replies ih => simp [calls, ih]

variable {buffer : Buffer} {reply : PageReply} {page : List Token} {query : Query} {failure : Failure}

theorem outcome_of_page? (h : reply.page? buffer = some page) :
    reply.outcome = .ok page.length ∧ page.length ≤ buffer.capacity := by
  unfold page? at h
  split at h
  · cases h
  · next returned houtcome =>
      split at h
      · next hfits =>
          cases h
          rw [Buffer.length_first]
          exact ⟨houtcome, hfits⟩
      · cases h

theorem page?_of_failure? (h : reply.failure? query buffer.capacity = some failure) : reply.page? buffer = none := by
  unfold failure? at h
  unfold page?
  split at h
  · rfl
  · split at h
    · cases h
    · next hfits => exact if_neg hfits

end PageReply

namespace Cursor

/-- A page call writes its handle back and leaves in the buffer what was written, and its page or its failure is that of
the reply. -/
theorem page_of_reply (session : Import σ) (cursor : Cursor) (buffer : Buffer) {state state' : σ} {reply : PageReply}
    (h : session.page cursor.handle cursor.query buffer.capacity state = (reply, state')) :
    ∃ result, cursor.page session buffer state =
        (result, { cursor with handle := reply.handle }, buffer.write reply.written, state') ∧
      match result with
      | .error failure => reply.failure? cursor.query buffer.capacity = some failure
      | .ok page => reply.page? buffer = some page := by
  unfold page PageReply.failure? PageReply.page?
  rw [h]
  dsimp only
  cases reply.outcome with
  | error status => exact ⟨_, rfl, rfl⟩
  | ok returned =>
      refine ⟨_, rfl, ?_⟩
      rw [Buffer.capacity_write]
      dsimp only
      by_cases hfits : returned ≤ buffer.capacity
      · rw [if_neg (Nat.not_lt.mpr hfits)]
        exact if_pos hfits
      · rw [if_pos (Nat.not_le.mp hfits)]
        exact if_neg hfits

theorem page_traced (session : Import σ) (cursor : Cursor) (buffer : Buffer) (state : σ) (log : List Call) :
    cursor.page session.traced buffer (state, log) =
      let (result, cursor', buffer', state') := cursor.page session buffer state
      let reply := (session.page cursor.handle cursor.query buffer.capacity state).1
      (result, cursor', buffer', state', log ++ [.page cursor.handle cursor.query buffer.capacity reply]) := rfl

end Cursor

/-! ## Replies to a drain -/

/-- The replies to the page calls of a drain: all but the last hand over pages that are not empty, and the last tells
why the drain stops, unless it is given up. -/
inductive Drains (query : Query) : Buffer → List PageReply → Option Stop → Prop where
  | exhausted (buffer : Buffer) : Drains query buffer [] (some .exhausted)
  | emptied {buffer : Buffer} {reply : PageReply} : reply.page? buffer = some [] → Drains query buffer [reply] none
  | failed {buffer : Buffer} {reply : PageReply} {failure : Failure} :
      reply.failure? query buffer.capacity = some failure → Drains query buffer [reply] (some (.failed failure))
  | went {buffer : Buffer} {reply : PageReply} {page : List Token} {replies : List PageReply} {stop : Option Stop} :
      reply.page? buffer = some page → page ≠ [] → Drains query (buffer.write reply.written) replies stop →
      Drains query buffer (reply :: replies) stop

namespace Drains

variable {query : Query} {buffer : Buffer} {replies : List PageReply} {stop : Option Stop}

theorem length_le (h : Drains query buffer replies stop) :
    ∀ page ∈ PageReply.pages buffer replies, page.length ≤ buffer.capacity := by
  induction h with
  | exhausted => simp [PageReply.pages]
  | emptied hpage => simp [PageReply.pages, hpage]
  | failed hfailure => simp [PageReply.pages, PageReply.page?_of_failure? hfailure]
  | went hpage _ _ ih =>
      simp only [PageReply.pages, hpage, Option.toList_some, List.cons_append, List.nil_append, List.forall_mem_cons]
      exact ⟨(PageReply.outcome_of_page? hpage).2, ih⟩

theorem emptied_at_last (h : Drains query buffer replies none) :
    (PageReply.pages buffer replies).length = replies.length ∧
      ∃ last, replies.getLast? = some last ∧ last.outcome = .ok 0 := by
  generalize hstop : (none : Option Stop) = stop at h
  induction h with
  | exhausted => cases hstop
  | @emptied buffer reply hpage =>
      exact ⟨by simp [PageReply.pages, hpage], reply, rfl, (PageReply.outcome_of_page? hpage).1⟩
  | failed => cases hstop
  | went hpage _ _ ih =>
      obtain ⟨hlength, last, hlast, houtcome⟩ := ih hstop
      refine ⟨?_, last, ?_, houtcome⟩
      · simp [PageReply.pages, hpage, hlength]
      · rw [List.getLast?_cons, hlast]
        rfl

/-- A drain that fails does so at its last call, which hands over nothing, and each call before handed over a page. -/
theorem failed_at_last {failure : Failure} (h : Drains query buffer replies (some (.failed failure))) :
    ∃ earlier last, replies = earlier ++ [last] ∧ last.failure? query buffer.capacity = some failure ∧
      PageReply.pages buffer replies = PageReply.pages buffer earlier ∧
      (PageReply.pages buffer replies).length = earlier.length := by
  -- Writes leave the capacity as it is, and so the last failure is of the first buffer as well.
  generalize hstop : some (Stop.failed failure) = stop at h
  induction h with
  | exhausted => cases hstop
  | emptied => cases hstop
  | @failed buffer reply failure' hfailure =>
      cases hstop
      have hpages : PageReply.pages buffer [reply] = [] := by
        simp [PageReply.pages, PageReply.page?_of_failure? hfailure]
      exact ⟨[], reply, rfl, hfailure, hpages, by rw [hpages]; rfl⟩
  | @went buffer reply page replies stop hpage _ _ ih =>
      obtain ⟨earlier, last, rfl, hfailure, hpages, hlength⟩ := ih hstop
      refine ⟨reply :: earlier, last, rfl, hfailure, ?_, ?_⟩
      · rw [PageReply.pages, hpages, PageReply.pages]
      · simp [PageReply.pages, hpage, hlength]

end Drains

/-! ## Drains -/

def Import.limited (session : Import σ) (limit : Nat) : Import σ :=
  { session with pageLimit := fun _ => limit }

/-- What a drain into a list answers: how many tokens it appended, or why it stopped. -/
def Drained.appended (drained : Drained) : Except Stop Nat :=
  match drained.stop with
  | none => .ok drained.tokens.length
  | some stop => .error stop

theorem Drained.appended_eq_ok_iff {drained : Drained} {count : Nat} :
    drained.appended = .ok count ↔ drained.stop = none ∧ drained.tokens.length = count := by
  unfold appended
  cases drained.stop <;> simp

theorem Drained.appended_eq_error_iff {drained : Drained} {stop : Stop} :
    drained.appended = .error stop ↔ drained.stop = some stop := by
  unfold appended
  cases drained.stop <;> simp

namespace Cursor

/-- A drain into a list appends what a drain alone produces. -/
theorem drainIntoFrom_eq (session : Import σ) (fuel : Nat) (buffer : Buffer) (out : List Token) (cursor : Cursor)
    (state : σ) :
    cursor.drainIntoFrom session fuel buffer out state =
      let (drained, rest) := cursor.drainFrom session fuel buffer state
      (drained.stop, out ++ drained.tokens, rest) := by
  induction fuel generalizing buffer out cursor state with
  | zero => simp [drainIntoFrom, drainFrom]
  | succ fuel ih =>
      rw [drainIntoFrom, drainFrom]
      rcases cursor.page session buffer state with ⟨failure | _ | ⟨token, more⟩, cursor, buffer, state⟩
      · simp
      · simp
      · simp [ih]

/-- A drain that is not given up is the same with a larger limit. -/
theorem drainIntoFrom_of_le {session : Import σ} {fuel fuel' : Nat} (hle : fuel ≤ fuel') {buffer : Buffer}
    {out : List Token} {cursor : Cursor} {state : σ}
    (h : (cursor.drainIntoFrom session fuel buffer out state).1 ≠ some .exhausted) :
    cursor.drainIntoFrom session fuel' buffer out state = cursor.drainIntoFrom session fuel buffer out state := by
  induction fuel generalizing fuel' buffer out cursor state with
  | zero => exact absurd rfl h
  | succ fuel ih =>
      obtain ⟨fuel', rfl⟩ := Nat.exists_eq_add_of_le' (Nat.le_trans (Nat.le_add_left 1 fuel) hle)
      rw [drainIntoFrom] at h
      rw [drainIntoFrom, drainIntoFrom]
      rcases hpage : cursor.page session buffer state with ⟨failure | _ | ⟨token, more⟩, cursor, buffer, state⟩
      · rfl
      · rfl
      · rw [hpage] at h
        exact ih (Nat.le_of_succ_le_succ hle) h

theorem drainIntoFrom_limited (session : Import σ) (limit fuel : Nat) (buffer : Buffer) (out : List Token)
    (cursor : Cursor) (state : σ) :
    cursor.drainIntoFrom (session.limited limit) fuel buffer out state =
      cursor.drainIntoFrom session fuel buffer out state := by
  induction fuel generalizing buffer out cursor state with
  | zero => rfl
  | succ fuel ih =>
      have hpage : cursor.page (session.limited limit) buffer state = cursor.page session buffer state := rfl
      rw [drainIntoFrom, drainIntoFrom, hpage]
      simp only [ih]

theorem drainIntoFrom_traced (session : Import σ) (fuel : Nat) (buffer : Buffer) (out : List Token) (cursor : Cursor)
    (state : σ) (log : List Call) :
    cursor.drainIntoFrom session fuel buffer out state =
      let (stop, filled, cursor', state', _) := cursor.drainIntoFrom session.traced fuel buffer out (state, log)
      (stop, filled, cursor', state') := by
  obtain ⟨hdrained, hcursor, hstate⟩ :=
    (Import.tracedSimulation id session).drainFrom fuel buffer (c := cursor) (s := (state, log)) ⟨rfl, rfl⟩
  rw [drainIntoFrom_eq, drainIntoFrom_eq, Import.traced]
  simp only [hdrained, hcursor, hstate]

theorem exists_drains (session : Import σ) (fuel : Nat) (buffer : Buffer) (out : List Token) (cursor : Cursor)
    (state : σ) (log : List Call) :
    ∃ replies stop cursor' state', Drains cursor.query buffer replies stop ∧
      (stop = some .exhausted → replies.length = fuel) ∧
      cursor.drainIntoFrom session.traced fuel buffer out (state, log) =
        (stop, out ++ (PageReply.pages buffer replies).flatten, cursor', state',
          log ++ PageReply.calls cursor.query buffer.capacity cursor.handle replies) := by
  -- The replies are found along the loop, each with the buffer and the handle that the page before left.
  induction fuel generalizing buffer out cursor state log with
  | zero =>
      refine ⟨[], _, cursor, state, .exhausted buffer, fun _ => rfl, ?_⟩
      simp [drainIntoFrom, PageReply.pages, PageReply.calls]
  | succ fuel ih =>
      rcases hreply : session.page cursor.handle cursor.query buffer.capacity state with ⟨reply, state'⟩
      obtain ⟨result, hpage, hresult⟩ := page_of_reply session cursor buffer hreply
      rw [drainIntoFrom, page_traced, hpage, hreply]
      rcases result with failure | _ | ⟨token, more⟩
      · have hnone := PageReply.page?_of_failure? hresult
        refine ⟨[reply], _, { cursor with handle := reply.handle }, state', .failed hresult, by simp, ?_⟩
        simp [PageReply.pages, hnone, PageReply.calls]
      · have hempty : reply.page? buffer = some [] := hresult
        refine ⟨[reply], none, { cursor with handle := reply.handle }, state', .emptied hempty, by simp, ?_⟩
        simp [PageReply.pages, hempty, PageReply.calls]
      · have htokens : reply.page? buffer = some (token :: more) := hresult
        obtain ⟨replies, stop, cursor', state'', hdrains, hexhausted, hrun⟩ :=
          ih (buffer.write reply.written) (out ++ token :: more) { cursor with handle := reply.handle } state'
            (log ++ [.page cursor.handle cursor.query buffer.capacity reply])
        refine ⟨reply :: replies, stop, cursor', state'', .went htokens (by simp) hdrains, ?_, ?_⟩
        · intro hstop
          rw [List.length_cons, hexhausted hstop]
        · dsimp only
          rw [hrun]
          simp [PageReply.pages, htokens, PageReply.calls]

theorem drainInto_of_drainIntoFrom {session : Import σ} {capacity : Nat} {out : List Token} {cursor cursor' : Cursor}
    {state state' : σ} {drained : Drained}
    (h : cursor.drainIntoFrom session (session.pageLimit state) (.empty (max capacity 1)) out state =
      (drained.stop, out ++ drained.tokens, cursor', state')) :
    cursor.drainInto session capacity out state = (drained.appended, out ++ drained.tokens, cursor', state') := by
  rw [drainInto, h]
  unfold Drained.appended
  cases drained.stop with
  | none => simp
  | some stop => rfl

theorem drainInto_eq (session : Import σ) (capacity : Nat) (out : List Token) (cursor : Cursor) (state : σ) :
    cursor.drainInto session capacity out state =
      let (drained, rest) := cursor.drain session capacity state
      (drained.appended, out ++ drained.tokens, rest) :=
  drainInto_of_drainIntoFrom (drainIntoFrom_eq session _ _ out cursor state)

theorem drainInto_limited {session : Import σ} {fuel limit : Nat} (hle : fuel ≤ limit) {capacity : Nat}
    {out : List Token} {cursor cursor' : Cursor} {state state' : σ} {drained : Drained}
    (hrun : cursor.drainIntoFrom session fuel (.empty (max capacity 1)) out state =
      (drained.stop, out ++ drained.tokens, cursor', state')) (hends : drained.stop ≠ some .exhausted) :
    cursor.drainInto (session.limited limit) capacity out state =
      (drained.appended, out ++ drained.tokens, cursor', state') := by
  apply drainInto_of_drainIntoFrom
  rw [drainIntoFrom_limited, ← hrun]
  apply drainIntoFrom_of_le hle
  rwa [hrun]

/-- Whatever an import answers, a drain leaves the list with what it had before and behind it the pages of all calls
that succeeded. If it fails, then at its last call, which appends nothing. A limit that does not end it does not matter.
-/
theorem drainInto_appends (session : Import σ) (capacity : Nat) (out : List Token) (cursor : Cursor) (state : σ)
    (log : List Call) :
    ∃ (replies : List PageReply) (result : Except Stop Nat) (cursor' : Cursor) (state' : σ),
      let size := max capacity 1
      let pages := PageReply.pages (.empty size) replies
      cursor.drainInto session.traced capacity out (state, log) =
        (result, out ++ pages.flatten, cursor', state',
          log ++ PageReply.calls cursor.query size cursor.handle replies) ∧
      cursor.drainInto session capacity out state = (result, out ++ pages.flatten, cursor', state') ∧
      (∀ page ∈ pages, page.length ≤ size) ∧
      (∀ appended, result = .ok appended → appended = pages.flatten.length ∧ pages.length = replies.length ∧
        ∃ last, replies.getLast? = some last ∧ last.outcome = .ok 0) ∧
      (∀ failure, result = .error (.failed failure) → ∃ earlier last, replies = earlier ++ [last] ∧
        last.failure? cursor.query size = some failure ∧ pages = PageReply.pages (.empty size) earlier ∧
        pages.length = earlier.length) ∧
      (result = .error .exhausted → replies.length = session.pageLimit state) ∧
      (result ≠ .error .exhausted → ∀ limit, session.pageLimit state ≤ limit →
        cursor.drainInto (session.limited limit) capacity out state =
          (result, out ++ pages.flatten, cursor', state')) := by
  obtain ⟨replies, stop, cursor', state', hdrains, hexhausted, htraced⟩ :=
    exists_drains session (session.pageLimit state) (.empty (max capacity 1)) out cursor state log
  have hrun := drainIntoFrom_traced session (session.pageLimit state) (.empty (max capacity 1)) out cursor state log
  rw [htraced] at hrun
  let drained : Drained := ⟨(PageReply.pages (.empty (max capacity 1)) replies).flatten, stop⟩
  refine ⟨replies, drained.appended, cursor', state', drainInto_of_drainIntoFrom htraced,
    drainInto_of_drainIntoFrom hrun, hdrains.length_le, ?_, ?_, ?_, ?_⟩
  · intro appended hresult
    obtain ⟨hstop, hcount⟩ := Drained.appended_eq_ok_iff.mp hresult
    obtain rfl : stop = none := hstop
    exact ⟨hcount.symm, hdrains.emptied_at_last⟩
  · intro failure hresult
    obtain rfl : stop = some (.failed failure) := Drained.appended_eq_error_iff.mp hresult
    exact hdrains.failed_at_last
  · intro hresult
    exact hexhausted (Drained.appended_eq_error_iff.mp hresult)
  · intro hresult limit hlimit
    exact drainInto_limited hlimit hrun fun hstop => hresult (Drained.appended_eq_error_iff.mpr hstop)

end Cursor

def Import.ofReplies : Import (List PageReply) where
  page _ _ _ replies := (replies.headD ⟨.unopened, [], .error .fail⟩, replies.tail)
  count _ replies := (.ok 0, replies)
  reset _ _ replies := (.ok (), replies)
  close _ replies := replies
  signature _ replies := (.error .fail, replies)
  pageLimit := List.length

namespace Cursor

/-- The second page claims more than was written and hands over what the first left in the buffer. The third claims more
than the buffer holds. -/
theorem drainInto_appends_overrun :
    let replies : List PageReply :=
      [⟨⟨1⟩, [⟨10⟩, ⟨11⟩], .ok 2⟩, ⟨⟨1⟩, [⟨12⟩], .ok 2⟩, ⟨⟨1⟩, [⟨13⟩], .ok 3⟩, ⟨⟨1⟩, [], .ok 0⟩]
    let failure : Failure := .pageOverrun .typeRefs 3 2
    ∃ (answered : List PageReply) (cursor' : Cursor) (left : List PageReply),
      Cursor.drainInto Import.ofReplies 2 [⟨7⟩] ⟨.typeRefs, .unopened⟩ replies =
        (.error (.failed failure), [⟨7⟩, ⟨10⟩, ⟨11⟩, ⟨12⟩, ⟨11⟩], cursor', left) ∧
      (PageReply.pages (.empty 2) answered).flatten = [⟨10⟩, ⟨11⟩, ⟨12⟩, ⟨11⟩] ∧
      ∃ earlier last, answered = earlier ++ [last] ∧ last.failure? .typeRefs 2 = some failure ∧
        PageReply.pages (.empty 2) answered = PageReply.pages (.empty 2) earlier := by
  intro replies failure
  obtain ⟨answered, result, cursor', left, -, hrun, -, -, hfailed, -⟩ :=
    drainInto_appends Import.ofReplies 2 [⟨7⟩] ⟨.typeRefs, .unopened⟩ replies []
  have hresult : result = .error (.failed failure) := (congrArg Prod.fst hrun).symm
  have hfilled : [⟨7⟩] ++ (PageReply.pages (.empty (max 2 1)) answered).flatten = [⟨7⟩, ⟨10⟩, ⟨11⟩, ⟨12⟩, ⟨11⟩] :=
    (congrArg (·.2.1) hrun).symm
  obtain ⟨earlier, last, hanswered, hlast, hpages, -⟩ := hfailed failure hresult
  rw [hresult, hfilled] at hrun
  exact ⟨answered, cursor', left, hrun, (List.cons.inj hfilled).2, earlier, last, hanswered, hlast, hpages⟩

end Cursor

end MetaParity
