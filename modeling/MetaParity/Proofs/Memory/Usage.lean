import MetaParity.Memory.Session
import MetaParity.Proofs.Handles
import MetaParity.Proofs.Memory.Interleaving

/-! # Raw use of a dispenser

Sessions are opened from a dispenser and called in any order, with any handles. What was called, and what was answered,
is all that it takes to tell which handles are open and how they were used. -/

namespace MetaParity

/-! ## Calls -/

inductive Request where
  | page (handle : Handle) (query : Query) (capacity : Nat)
  | count (handle : Handle)
  | reset (handle : Handle) (position : UInt32)
  | close (handle : Handle)
  | signature (token : Token)

def Request.run {σ : Type} (session : Import σ) (request : Request) (state : σ) : Call × σ :=
  match request with
  | page handle query capacity =>
    let (reply, state) := session.page handle query capacity state
    (.page handle query capacity reply, state)
  | count handle =>
    let (answer, state) := session.count handle state
    (.count handle answer, state)
  | reset handle position =>
    let (answer, state) := session.reset handle position state
    (.reset handle position answer, state)
  | close handle => (.close handle, session.close handle state)
  | signature token =>
    let (answer, state) := session.signature token state
    (.signature token answer, state)

theorem Request.eq_page_of_run {σ : Type} {session : Import σ} {handle : Handle} {query : Query} {capacity : Nat}
    {state state' : σ} {call : Call} (h : (page handle query capacity).run session state = (call, state')) :
    ∃ reply, call = .page handle query capacity reply :=
  ⟨_, (congrArg Prod.fst h).symm⟩

def Part.whole {σ : Type} : Part σ σ :=
  ⟨id, fun state _ => state⟩

theorem Request.run_within {σ ω : Type} (session : Import σ) (part : Part ω σ) (request : Request) :
    request.run (session.within part) = part.run (request.run session) := by
  cases request <;> rfl

namespace Call

def written : Call → List Token
  | page _ _ _ reply => reply.written
  | count .. | reset .. | close .. | signature .. => []

/-! ## What a call amounts to

Each of these is told from the call and from the handles that are open in its session. -/

@[simp] def opens (_ : List Handle) : Call → Bool
  | page handle .. => !handle.isOpened
  | count .. | reset .. | close .. | signature .. => false

@[simp] def closesOpen (opened : List Handle) : Call → Bool
  | close handle => opened.contains handle
  | page .. | count .. | reset .. | signature .. => false

@[simp] def closesUnknown (opened : List Handle) : Call → Bool
  | close handle => !opened.contains handle
  | page .. | count .. | reset .. | signature .. => false

/-- A page, a count or a reset for a handle that is not open, other than a first page and a reset that fails in any
case. -/
@[simp] def asksUnknown (faults : Memory.FaultPlan) (opened : List Handle) : Call → Bool
  | page handle .. => handle.isOpened && !opened.contains handle
  | count handle _ => !opened.contains handle
  | reset handle .. => faults.reset.isNone && !opened.contains handle
  | close .. | signature .. => false

/-- A handle that is open is reset, and resets do not fail. -/
@[simp] def resetsOpen (faults : Memory.FaultPlan) (opened : List Handle) : Call → Bool
  | reset handle .. => faults.reset.isNone && opened.contains handle
  | page .. | count .. | close .. | signature .. => false

end Call

namespace Memory

/-! ## Logs -/

abbrev Log := List (Nat × Call)

theorem partOf_concat_self {ι α : Type} [DecidableEq ι] (i : ι) (items : List (ι × α)) (a : α) :
    partOf i (items ++ [(i, a)]) = partOf i items ++ [a] := by
  simp [partOf]

theorem partOf_concat_of_ne {ι α : Type} [DecidableEq ι] {i j : ι} (h : i ≠ j) (items : List (ι × α)) (a : α) :
    partOf j (items ++ [(i, a)]) = partOf j items := by
  simp [partOf, h]

namespace Log

def handedOut (log : Log) (i : Nat) : List Handle :=
  (partOf i log).filterMap Call.created?

/-- The handles that are open in a session: it handed them out, and they were not closed since. -/
def openIn (log : Log) (i : Nat) : List Handle :=
  openHandles (partOf i log)

def tallyAfter (kind : List Handle → Call → Bool) (before : Log) : Log → Nat
  | [] => 0
  | (i, call) :: after => (kind (before.openIn i) call).toNat + tallyAfter kind (before ++ [(i, call)]) after

/-- How many calls are of a kind, by the handles that are open in their session when they are made. -/
def tally (kind : List Handle → Call → Bool) (log : Log) : Nat :=
  tallyAfter kind [] log

theorem tallyAfter_concat (kind : List Handle → Call → Bool) (before after : Log) (i : Nat) (call : Call) :
    tallyAfter kind before (after ++ [(i, call)]) =
      tallyAfter kind before after + (kind ((before ++ after).openIn i) call).toNat := by
  induction after generalizing before with
  | nil => simp [tallyAfter]
  | cons event after ih => simp [tallyAfter, ih, Nat.add_assoc]

variable (log : Log) (i : Nat) (call : Call)

@[simp] theorem tally_concat (kind : List Handle → Call → Bool) :
    tally kind (log ++ [(i, call)]) = tally kind log + (kind (log.openIn i) call).toNat := by
  rw [tally, tallyAfter_concat, List.nil_append]
  rfl

@[simp] theorem openIn_concat_self : openIn (log ++ [(i, call)]) i = call.openAfter (log.openIn i) := by
  rw [openIn, partOf_concat_self, openHandles_concat]
  rfl

theorem openIn_concat_of_ne {j : Nat} (h : i ≠ j) : openIn (log ++ [(i, call)]) j = log.openIn j := by
  rw [openIn, partOf_concat_of_ne h]
  rfl

@[simp] theorem handedOut_concat_self :
    handedOut (log ++ [(i, call)]) i = log.handedOut i ++ call.created?.toList := by
  rw [handedOut, partOf_concat_self, List.filterMap_append, List.filterMap_cons]
  cases call.created? <;> rfl

theorem handedOut_concat_of_ne {j : Nat} (h : i ≠ j) : handedOut (log ++ [(i, call)]) j = log.handedOut j := by
  rw [handedOut, partOf_concat_of_ne h]
  rfl

end Log

/-! ## Usage -/

inductive Act where
  | openScope (image : Bytes)
  | call (session : Nat) (request : Request)

/-- A dispenser in use: the sessions that were opened from it, the calls that were made on them, and the state. -/
structure Usage (ω : Type) where
  sessions : List (Session ω) := []
  log : Log := []
  state : ω

namespace Usage

variable {ω : Type}

/-- The usage after one more act. A call on a session that was not opened is not made. -/
def step (dispenser : Dispenser ω) (usage : Usage ω) : Act → Usage ω
  | .openScope image =>
    match dispenser.openScope image usage.state with
    | (.ok session, state) => { usage with sessions := usage.sessions ++ [session], state }
    | (.error _, state) => { usage with state }
  | .call i request =>
    match usage.sessions[i]? with
    | some session =>
      let (call, state) := request.run session.toImport usage.state
      { usage with log := usage.log ++ [(i, call)], state }
    | none => usage

theorem step_call (dispenser : Dispenser ω) {usage : Usage ω} {i : Nat} {session : Session ω}
    (h : usage.sessions[i]? = some session) (request : Request) :
    usage.step dispenser (.call i request) =
      { usage with
        log := usage.log ++ [(i, (request.run session.toImport usage.state).1)]
        state := (request.run session.toImport usage.state).2 } := by
  simp [step, h]

theorem step_call_of_none (dispenser : Dispenser ω) {usage : Usage ω} {i : Nat} (h : usage.sessions[i]? = none)
    (request : Request) : usage.step dispenser (.call i request) = usage := by
  simp [step, h]

def run (dispenser : Dispenser ω) (state : ω) (acts : List Act) : Usage ω :=
  acts.foldl (step dispenser) { state }

end Usage

end Memory

end MetaParity
