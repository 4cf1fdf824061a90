import MetaParity.Benchmark

/-! # Benchmark passes as they are observed

A pass that reports its events as it goes, over entry points that note their calls, leaves one record of both. Events and
calls lie in it one behind the other, whatever the entry points do with the state. -/

namespace MetaParity.Benchmark

variable {ω : Type}

/-! ## Passes that report as they go -/

def callTo (report : Event → ω → ω) (entry : Entry ω) (side : Side) (iterations : Int32)
    (next : ω → Except Failure (List Measurement) × ω) (state : ω) : Except Failure (List Measurement) × ω :=
  let (status, state) := entry.invoke side iterations state
  let state := report (.timed entry.workload side 0 status) state
  if status.isFailure then (.error (.benchmarkFailed entry.workload side status), state) else next state

/-- A pass whose events are reported when they happen, to someone who shares the state of the entry points. -/
def passTo (report : Event → ω → ω) (iterations : Int32) :
    List (Entry ω) → ω → Except Failure (List Measurement) × ω
  | [], state => (.ok [], state)
  | entry :: rest, state =>
    let state := report (.started entry.workload) state
    callTo report entry .baseline iterations (callTo report entry .current iterations fun state =>
      let (later, state) := passTo report iterations rest state
      (later.map (⟨entry.workload, iterations, 0, 0⟩ :: ·), state)) state

/-! ## Calls and events in one record -/

/-- Which entry point is called, by the place of its entry in the table, and for how many iterations. -/
structure Target where
  position : Nat
  workload : Workload
  side : Side
  iterations : Int32
deriving DecidableEq

structure Call where
  target : Target
  status : Status
deriving DecidableEq

inductive Moment where
  | called (call : Call)
  | reported (event : Event)
deriving DecidableEq

def Moment.event? : Moment → Option Event
  | called _ => none
  | reported event => some event

def Event.outcome? : Event → Option (Workload × Side × Status)
  | started _ => none
  | timed workload side _ status => some (workload, side, status)

def Entry.noted (entry : Entry ω) (position : Nat) : Entry (ω × List Moment) where
  workload := entry.workload
  invoke side iterations use :=
    let (status, state) := entry.invoke side iterations use.1
    (status, state, use.2 ++ [.called ⟨⟨position, entry.workload, side, iterations⟩, status⟩])

def note (event : Event) (use : ω × List Moment) : ω × List Moment :=
  (use.1, use.2 ++ [.reported event])

def recorded (iterations : Int32) (entries : List (Entry ω)) (state : ω) :
    Except Failure (List Measurement) × ω × List Moment :=
  passTo note iterations (entries.zipIdx.map fun (entry, position) => entry.noted position) (state, [])

namespace Call

def workload (call : Call) : Workload :=
  call.target.workload

def side (call : Call) : Side :=
  call.target.side

def moments (call : Call) : List Moment :=
  [.called call, .reported (.timed call.workload call.side 0 call.status)]

/-- What comes before a call: the first call for an entry is announced. -/
def announcement (call : Call) : List Moment :=
  match call.side with
  | .baseline => [.reported (.started call.workload)]
  | .current => []

end Call

def Call.record (calls : List Call) : List Moment :=
  calls.flatMap fun call => call.announcement ++ call.moments

/-- The calls that a pass has to make: both sides of every entry, baseline then current. -/
def plan (iterations : Int32) (entries : List (Entry ω × Nat)) : List Target :=
  entries.flatMap fun (entry, position) => Side.all.map fun side => ⟨position, entry.workload, side, iterations⟩

/-! ## Calls that follow a plan -/

/-- Calls are made as planned: all of them, or up to the first that fails. -/
inductive Follows : (plan : List Target) → (calls : List Call) → Prop where
  | done : Follows [] []
  | failed {call : Call} {plan : List Target} : call.status.isFailure = true → Follows (call.target :: plan) [call]
  | went {call : Call} {plan : List Target} {calls : List Call} : call.status.isFailure = false →
      Follows plan calls → Follows (call.target :: plan) (call :: calls)

namespace Follows

variable {plan : List Target} {calls : List Call}

theorem targets_front (h : Follows plan calls) : calls.map (·.target) <+: plan := by
  induction h with
  | done => exact List.nil_prefix
  | failed _ => simp
  | went _ _ ih => exact List.cons_prefix_cons.mpr ⟨rfl, ih⟩

theorem dropLast_eq_false (h : Follows plan calls) : ∀ call ∈ calls.dropLast, call.status.isFailure = false := by
  induction h with
  | done => simp
  | failed _ => simp
  | @went call _ calls hgood _ ih =>
      cases calls with
      | nil => simp
      | cons next calls =>
          rw [List.dropLast_cons_cons]
          exact List.forall_mem_cons.mpr ⟨hgood, ih⟩

theorem targets_eq (h : Follows plan calls) (hgood : ∀ call ∈ calls, call.status.isFailure = false) :
    calls.map (·.target) = plan := by
  induction h with
  | done => rfl
  | failed hfailure => exact absurd hfailure (ne_true_of_eq_false (hgood _ List.mem_cons_self))
  | went _ _ ih => rw [List.map_cons, ih (List.forall_mem_cons.mp hgood).2]

end Follows

/-- How a pass ends: with a measurement of every subject if no call fails, and otherwise by the last call. -/
inductive Ends (subjects : List (Workload × Int32)) (calls : List Call) : Except Failure (List Measurement) → Prop where
  | ok {measurements : List Measurement} : (∀ call ∈ calls, call.status.isFailure = false) →
      (measurements.map fun measurement => (measurement.workload, measurement.iterations)) = subjects →
      Ends subjects calls (.ok measurements)
  | error {call : Call} : calls.getLast? = some call → call.status.isFailure = true →
      Ends subjects calls (.error (.benchmarkFailed call.workload call.side call.status))

theorem Ends.cons {subjects : List (Workload × Int32)} {calls : List Call} {result : Except Failure (List Measurement)}
    (h : Ends subjects calls result) {call : Call} (hgood : call.status.isFailure = false) :
    Ends subjects (call :: calls) result := by
  cases h with
  | ok hcalls hsubjects => exact .ok (List.forall_mem_cons.mpr ⟨hgood, hcalls⟩) hsubjects
  | error hlast hfailure => exact .error (by rw [List.getLast?_cons, hlast]; rfl) hfailure

theorem Ends.measured {subjects : List (Workload × Int32)} {calls : List Call}
    {result : Except Failure (List Measurement)} (h : Ends subjects calls result) (measurement : Measurement) :
    Ends ((measurement.workload, measurement.iterations) :: subjects) calls (result.map (measurement :: ·)) := by
  cases h with
  | ok hcalls hsubjects => exact .ok hcalls (by rw [List.map_cons, hsubjects])
  | error hlast hfailure => exact .error hlast hfailure

/-! ## Passes with their events apart and on record -/

/-- A computation whose events are listed apart and one whose events are reported make the same calls, as planned, and
both tell of these. -/
def Mirrors (plan : List Target) (subjects : List (Workload × Int32)) (next : ω → Pass × ω)
    (nextTo : ω × List Moment → Except Failure (List Measurement) × ω × List Moment) : Prop :=
  ∀ state log, ∃ calls, Follows plan calls ∧ Ends subjects calls (next state).1.result ∧
    (next state).1.events = (Call.record calls).filterMap Moment.event? ∧
    nextTo (state, log) = ((next state).1.result, (next state).2, log ++ Call.record calls)

section

variable {plan : List Target} {subjects : List (Workload × Int32)} {next : ω → Pass × ω}
  {nextTo : ω × List Moment → Except Failure (List Measurement) × ω × List Moment}

theorem Mirrors.exists_call (h : Mirrors plan subjects next nextTo) (entry : Entry ω) (position : Nat) (side : Side)
    (iterations : Int32) (state : ω) (log : List Moment) :
    let called := call entry side iterations next state
    ∃ made calls, made.target = ⟨position, entry.workload, side, iterations⟩ ∧
      Follows (made.target :: plan) (made :: calls) ∧ Ends subjects (made :: calls) called.1.result ∧
      called.1.events = (made.moments ++ Call.record calls).filterMap Moment.event? ∧
      callTo note (entry.noted position) side iterations nextTo (state, log) =
        (called.1.result, called.2, log ++ (made.moments ++ Call.record calls)) := by
  let made : Call := ⟨⟨position, entry.workload, side, iterations⟩, (entry.invoke side iterations state).1⟩
  let state' := (entry.invoke side iterations state).2
  have hcall : call entry side iterations next state =
      let rest := if made.status.isFailure then (Pass.failed entry.workload side made.status, state') else next state'
      (rest.1.after (.timed entry.workload side 0 made.status), rest.2) := rfl
  have hcallTo : callTo note (entry.noted position) side iterations nextTo (state, log) =
      if made.status.isFailure then
        (.error (.benchmarkFailed entry.workload side made.status), state', log ++ made.moments)
      else nextTo (state', log ++ made.moments) := by
    rw [Call.moments, List.append_cons]
    rfl
  by_cases hfailure : made.status.isFailure
  · rw [if_pos hfailure] at hcall hcallTo
    refine ⟨made, [], rfl, .failed hfailure, ?_, ?_, ?_⟩
    · rw [hcall]
      exact .error rfl hfailure
    · rw [hcall]
      rfl
    · rw [hcall, hcallTo, Call.record, List.flatMap_nil, List.append_nil]
      rfl
  · rw [if_neg hfailure] at hcall hcallTo
    obtain ⟨calls, hfollows, hends, hevents, hnext⟩ := h state' (log ++ made.moments)
    have hgood := eq_false_of_ne_true hfailure
    refine ⟨made, calls, rfl, .went hgood hfollows, ?_, ?_, ?_⟩
    · rw [hcall]
      exact hends.cons hgood
    · rw [hcall, List.filterMap_append, ← hevents]
      rfl
    · rw [hcall, hcallTo, hnext, List.append_assoc]
      rfl

theorem Mirrors.current (h : Mirrors plan subjects next nextTo) (entry : Entry ω) (position : Nat) (iterations : Int32) :
    Mirrors (⟨position, entry.workload, .current, iterations⟩ :: plan) subjects
      (call entry .current iterations next) (callTo note (entry.noted position) .current iterations nextTo) := by
  intro state log
  obtain ⟨made, calls, htarget, hfollows, hends, hevents, hto⟩ :=
    h.exists_call entry position .current iterations state log
  have hrecord : Call.record (made :: calls) = made.moments ++ Call.record calls := by
    rw [Call.record, List.flatMap_cons, Call.announcement, Call.side, htarget]
    rfl
  refine ⟨made :: calls, htarget ▸ hfollows, hends, ?_, ?_⟩
  · rw [hrecord, hevents]
  · rw [hrecord, hto]

theorem Mirrors.baseline (h : Mirrors plan subjects next nextTo) (entry : Entry ω) (position : Nat)
    (iterations : Int32) :
    Mirrors (⟨position, entry.workload, .baseline, iterations⟩ :: plan) subjects
      (fun state =>
        let (both, state) := call entry .baseline iterations next state
        (both.after (.started entry.workload), state))
      (fun use => callTo note (entry.noted position) .baseline iterations nextTo (note (.started entry.workload) use)) := by
  intro state log
  obtain ⟨made, calls, htarget, hfollows, hends, hevents, hto⟩ := h.exists_call entry position .baseline iterations state
    (log ++ [.reported (.started entry.workload)])
  have hrecord : Call.record (made :: calls) =
      .reported (.started entry.workload) :: (made.moments ++ Call.record calls) := by
    rw [Call.record, List.flatMap_cons, Call.announcement, Call.side, Call.workload, htarget]
    rfl
  refine ⟨made :: calls, htarget ▸ hfollows, hends, ?_, ?_⟩
  · rw [hrecord, List.filterMap_cons, ← hevents]
    rfl
  · rw [hrecord, List.append_cons]
    exact hto

end

theorem mirrors_pass (iterations : Int32) (entries : List (Entry ω)) (start : Nat) :
    Mirrors (plan iterations (entries.zipIdx start)) (entries.map (·.workload, iterations)) (pass iterations entries)
      (passTo note iterations ((entries.zipIdx start).map fun (entry, position) => entry.noted position)) := by
  induction entries generalizing start with
  | nil =>
      intro state log
      refine ⟨[], .done, .ok (by simp) rfl, rfl, ?_⟩
      exact Prod.ext rfl (Prod.ext rfl (List.append_nil log).symm)
  | cons entry entries ih =>
      -- After both calls of the first entry comes the pass over the others, with one more measurement.
      have hlater : Mirrors (plan iterations (entries.zipIdx (start + 1)))
          ((entry :: entries).map (·.workload, iterations))
          (fun state =>
            let (later, state) := pass iterations entries state
            (later.measured ⟨entry.workload, iterations, 0, 0⟩, state))
          (fun use =>
            let (later, use) := passTo note iterations
              ((entries.zipIdx (start + 1)).map fun (entry, position) => entry.noted position) use
            (later.map (⟨entry.workload, iterations, 0, 0⟩ :: ·), use)) := by
        intro state log
        obtain ⟨calls, hfollows, hends, hevents, hto⟩ := ih (start + 1) state log
        refine ⟨calls, hfollows, hends.measured ⟨entry.workload, iterations, 0, 0⟩, hevents, ?_⟩
        simp only [hto]
        rfl
      exact (hlater.current entry start iterations).baseline entry start iterations

/-! ## What events and results tell about calls -/

def Call.outcome (call : Call) : Workload × Side × Status :=
  (call.workload, call.side, call.status)

theorem outcome_moments (made : Call) :
    ((made.announcement ++ made.moments).filterMap Moment.event?).filterMap Event.outcome? = [made.outcome] := by
  rcases made with ⟨⟨position, workload, side, iterations⟩, status⟩
  cases side <;> rfl

theorem outcomes_record (calls : List Call) :
    ((Call.record calls).filterMap Moment.event?).filterMap Event.outcome? = calls.map Call.outcome := by
  induction calls with
  | nil => rfl
  | cons made calls ih =>
      rw [Call.record, List.flatMap_cons, List.filterMap_append, List.filterMap_append, outcome_moments, ← Call.record,
        ih]
      rfl

theorem getLast?_record {calls : List Call} {made : Call} (h : calls.getLast? = some made) :
    ((Call.record calls).filterMap Moment.event?).getLast? =
      some (.timed made.workload made.side 0 made.status) := by
  obtain ⟨front, rfl⟩ := List.getLast?_eq_some_iff.mp h
  simp [Call.record, Call.moments, List.findSome?_cons, Moment.event?]

/-- What a pass reports mirrors what it calls: a workload is announced right before the call of its baseline, every call
is told of right behind it, and nothing comes behind a call that fails. -/
theorem pass_mirrors_calls (iterations : Int32) (entries : List (Entry ω)) (state : ω) :
    let run := pass iterations entries state
    ∃ calls : List Call,
      recorded iterations entries state = (run.1.result, run.2, Call.record calls) ∧
      run.1.events = (Call.record calls).filterMap Moment.event? ∧
      run.1.events.filterMap Event.outcome? = calls.map Call.outcome ∧
      calls.map (·.target) <+: plan iterations entries.zipIdx ∧
      (∀ call ∈ calls.dropLast, call.status.isFailure = false) ∧
      ((∃ measurements, run.1.result = .ok measurements) ↔ ∀ call ∈ calls, call.status.isFailure = false) ∧
      match run.1.result with
      | .ok measurements =>
        calls.map (·.target) = plan iterations entries.zipIdx ∧
          (measurements.map fun measurement => (measurement.workload, measurement.iterations)) =
            entries.map (·.workload, iterations)
      | .error failure => ∃ workload side status, failure = .benchmarkFailed workload side status ∧
          status.isFailure = true ∧ run.1.events.getLast? = some (.timed workload side 0 status) := by
  obtain ⟨calls, hfollows, hends, hevents, hrecorded⟩ := mirrors_pass iterations entries 0 state []
  rw [List.nil_append] at hrecorded
  refine ⟨calls, hrecorded, hevents, hevents ▸ outcomes_record calls, hfollows.targets_front,
    hfollows.dropLast_eq_false, ?_⟩
  generalize hresult : (pass iterations entries state).1.result = result at hends
  cases hends with
  | ok hgood hsubjects => exact ⟨⟨fun _ => hgood, fun _ => ⟨_, rfl⟩⟩, hfollows.targets_eq hgood, hsubjects⟩
  | @error made hlast hfailure =>
      have hmem : made ∈ calls := List.mem_of_getLast? hlast
      refine ⟨⟨?_, fun hgood => ?_⟩, made.workload, made.side, made.status, rfl, hfailure, ?_⟩
      · rintro ⟨measurements, hok⟩
        cases hok
      · rw [hgood made hmem] at hfailure
        cases hfailure
      · rw [hevents]
        exact getLast?_record hlast

/-- A table of one workload over and over, whose entry points fail at their fourth call. -/
example :
    let entry : Entry Nat := ⟨.createImport, fun _ _ calls => (if calls = 3 then .pointer else .ok, calls + 1)⟩
    ((recorded 7 [entry, entry, entry] 0).2.2.filterMap Moment.event?) =
      [.started .createImport, .timed .createImport .baseline 0 .ok, .timed .createImport .current 0 .ok,
       .started .createImport, .timed .createImport .baseline 0 .ok, .timed .createImport .current 0 .pointer] := by
  decide +kernel

end MetaParity.Benchmark
