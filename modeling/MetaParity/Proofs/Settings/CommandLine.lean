import MetaParity.Proofs.Except
import MetaParity.Proofs.Lookup
import MetaParity.Settings.CommandLine
import Mathlib.Data.List.Nodup

/-! # What a command line gives

Every value that a command line is read to give is of the form that its parameter takes, so it can be used later on. A
value from the environment is found exactly where the command line gives none. -/

namespace MetaParity.Settings

/-! ## Values by name -/

theorem Given.lookup_add (given : Given) (name other : String) (values : List String) :
    (given.add name values).lookup other =
      if other = name then some ((given.lookup name).getD [] ++ values) else given.lookup other := by
  induction given with
  | nil => rw [add, lookup_cons_eq_ite, List.lookup_nil, List.lookup_nil, Option.getD_none, List.nil_append]
  | cons entry rest ih =>
      obtain ⟨key, held⟩ := entry
      unfold add
      by_cases hkey : key = name
      · subst hkey
        rw [if_pos rfl, List.lookup_cons_self, Option.getD_some, lookup_cons_eq_ite, lookup_cons_eq_ite]
        split <;> rfl
      · rw [if_neg hkey, lookup_cons_eq_ite, lookup_cons_eq_ite, lookup_cons_eq_ite, if_neg (Ne.symm hkey), ih]
        by_cases hother : other = key
        · rw [if_pos hother, if_neg (hother ▸ hkey), if_pos hother]
        · rw [if_neg hother, if_neg hother]

/-- Values that a parameter takes: there is one, each is of its form, and a switch is only ever switched on. -/
structure Parameter.Accepts (parameter : Parameter) (values : List String) : Prop where
  ne_nil : values ≠ []
  of_form : parameter.action ≠ .count → ∀ value ∈ values, parameter.action.form.refusal? value = none
  switched_on : parameter.action = .switch → ∀ value ∈ values, value = "true"

theorem Parameter.Accepts.append {parameter : Parameter} {values more : List String} (h : parameter.Accepts values)
    (hmore : parameter.Accepts more) : parameter.Accepts (values ++ more) where
  ne_nil := by simp [h.ne_nil]
  of_form haction value hvalue :=
    (List.mem_append.mp hvalue).elim (h.of_form haction value) (hmore.of_form haction value)
  switched_on haction value hvalue :=
    (List.mem_append.mp hvalue).elim (h.switched_on haction value) (hmore.switched_on haction value)

/-- Whatever is given is given for a parameter of the level, and that takes it. -/
def Level.Holds (level : Level) (given : Given) : Prop :=
  ∀ name values, given.lookup name = some values →
    ∃ parameter ∈ level.parameters, parameter.name = name ∧ parameter.Accepts values

def Level.Distinct (level : Level) : Prop :=
  (level.parameters.map (·.name)).Nodup

instance (level : Level) : Decidable level.Distinct :=
  inferInstanceAs (Decidable (level.parameters.map (·.name)).Nodup)

theorem Level.Distinct.eq_of_name_eq {level : Level} (h : level.Distinct) {parameter other : Parameter}
    (hmem : parameter ∈ level.parameters) (hother : other ∈ level.parameters) (hname : parameter.name = other.name) :
    parameter = other :=
  List.inj_on_of_nodup_map h hmem hother hname

theorem Level.Holds.add {level : Level} (hdistinct : level.Distinct) {given : Given} (h : level.Holds given)
    {parameter : Parameter} (hmem : parameter ∈ level.parameters) {values : List String}
    (hvalues : parameter.Accepts values) : level.Holds (given.add parameter.name values) := by
  intro name held hheld
  rw [Given.lookup_add] at hheld
  split at hheld
  · next hname =>
      obtain rfl := Option.some.inj hheld
      refine ⟨parameter, hmem, hname.symm, ?_⟩
      cases hlookup : given.lookup parameter.name with
      | none => simpa using hvalues
      | some before =>
          obtain ⟨other, hother, hsame, hbefore⟩ := h _ _ hlookup
          obtain rfl := hdistinct.eq_of_name_eq hother hmem hsame
          exact hbefore.append hvalues
  · exact h name held hheld

/-! ## Reading -/

namespace Reading

/-- What was read so far is held by the level, and so is the parameter whose values are pending. -/
structure Sound (level : Level) (reading : Reading) : Prop where
  pending_mem : ∀ parameter values, reading.pending = some (parameter, values) → parameter ∈ level.parameters
  holds : level.Holds reading.given

theorem exists_accepts_of_take {reading reading' : Reading} {parameter : Parameter} {values : List String}
    (h : reading.take parameter values = .ok reading') :
    ∃ accepted, parameter.Accepts accepted ∧
      reading' = { reading with given := reading.given.add parameter.name accepted } := by
  -- Parameters with one value and with many look at what they are given in the same way.
  have haccepts (form : Form) (hform : parameter.action.form = form) (hswitch : parameter.action ≠ .switch)
      (hnonempty : ¬values.isEmpty) (hnone : values.findSome? form.refusal? = none) : parameter.Accepts values := by
    refine ⟨by simpa using hnonempty, ?_, fun haction => absurd haction hswitch⟩
    rw [hform]
    exact fun _ => List.findSome?_eq_none_iff.mp hnone
  unfold take at h
  cases haction : parameter.action with
  | help => simp [haction] at h
  | version => simp [haction] at h
  | count =>
      simp only [haction, pure_eq_ok_iff] at h
      exact ⟨[""], ⟨by simp, fun hcount => absurd haction hcount, by simp [haction]⟩, h.symm⟩
  | switch =>
      simp only [haction] at h
      split at h
      · cases h
      · cases h
        refine ⟨["true"], ⟨by simp, fun _ => ?_, by simp⟩, rfl⟩
        rw [haction]
        decide
  | one form =>
      simp only [haction, ite_throw_eq_ok_iff, bind_eq_ok_iff, pure_eq_ok_iff] at h
      obtain ⟨hnonempty, -, ⟨⟩, hcheck, rfl⟩ := h
      split at hcheck
      · cases hcheck
      · next hnone => exact ⟨values, haccepts form (by rw [haction]; rfl) (by simp [haction]) hnonempty hnone, rfl⟩
  | many form =>
      simp only [haction, ite_throw_eq_ok_iff, bind_eq_ok_iff, pure_eq_ok_iff] at h
      obtain ⟨hnonempty, ⟨⟩, hcheck, rfl⟩ := h
      split at hcheck
      · cases hcheck
      · next hnone => exact ⟨values, haccepts form (by rw [haction]; rfl) (by simp [haction]) hnonempty hnone, rfl⟩

namespace Sound

variable {level : Level} {reading reading' : Reading}

theorem start (level : Level) : Sound level {} :=
  ⟨nofun, nofun⟩

theorem pend (h : Sound level reading) {parameter : Parameter} (hmem : parameter ∈ level.parameters)
    (values : List String) (awaiting trailing : Bool) :
    Sound level { reading with pending := some (parameter, values), awaiting, trailing } where
  pending_mem := by
    rintro _ _ ⟨⟩
    exact hmem
  holds := h.holds

variable (hdistinct : level.Distinct)
include hdistinct

theorem take (h : Sound level reading) {parameter : Parameter} (hmem : parameter ∈ level.parameters)
    {values : List String} (htake : reading.take parameter values = .ok reading') : Sound level reading' := by
  obtain ⟨accepted, haccepts, rfl⟩ := exists_accepts_of_take htake
  exact ⟨h.pending_mem, h.holds.add hdistinct hmem haccepts⟩

theorem settle (h : Sound level reading) (hsettle : reading.settle = .ok reading') : Sound level reading' := by
  unfold Reading.settle at hsettle
  split at hsettle
  · cases hsettle
    exact h
  · next parameter values hpending =>
      have hidle : Sound level { reading with pending := none, awaiting := false } := ⟨nofun, h.holds⟩
      exact hidle.take hdistinct (h.pending_mem parameter values hpending) hsettle

theorem meet (h : Sound level reading) {parameter : Parameter} (hmem : parameter ∈ level.parameters)
    {attached : Option String} (hmeet : reading.meet parameter attached = .ok reading') : Sound level reading' := by
  unfold Reading.meet at hmeet
  split at hmeet
  · obtain ⟨settled, hsettled, htake⟩ := bind_eq_ok_iff.mp hmeet
    exact (h.settle hdistinct hsettled).take hdistinct hmem htake
  · obtain ⟨settled, hsettled, hpend⟩ := bind_eq_ok_iff.mp hmeet
    cases hpend
    exact (h.settle hdistinct hsettled).pend hmem _ _ _
  · cases hmeet
  · obtain ⟨settled, hsettled, htake⟩ := bind_eq_ok_iff.mp hmeet
    exact (h.settle hdistinct hsettled).take hdistinct hmem htake

theorem long (h : Sound level reading) {text : List Char} (hlong : reading.long level text = .ok reading') :
    Sound level reading' := by
  unfold Reading.long at hlong
  dsimp only at hlong
  split at hlong
  · next parameter hfind => exact h.meet hdistinct (List.mem_of_find?_eq_some hfind) hlong
  · cases hlong

theorem short (h : Sound level reading) {text : List Char} (hshort : reading.short level text = .ok reading') :
    Sound level reading' := by
  induction text generalizing reading with
  | nil =>
      cases hshort
      exact h
  | cons c rest ih =>
      unfold Reading.short at hshort
      split at hshort
      · cases hshort
      · next parameter hfind =>
          have hmem := List.mem_of_find?_eq_some hfind
          split at hshort
          · exact h.meet hdistinct hmem hshort
          · obtain ⟨met, hmet, hrest⟩ := bind_eq_ok_iff.mp hshort
            exact ih (h.meet hdistinct hmem hmet) hrest

theorem place (h : Sound level reading) {word : String} (hplace : reading.place level word = .ok reading') :
    Sound level reading' := by
  unfold Reading.place at hplace
  split at hplace
  · split at hplace <;> cases hplace
  · next parameter hfind =>
      have hmem := List.mem_of_find?_eq_some hfind
      split at hplace
      · split at hplace
        · cases hplace
          exact h.pend hmem _ _ _
        · obtain ⟨settled, hsettled, hpend⟩ := bind_eq_ok_iff.mp hplace
          cases hpend
          exact (h.settle hdistinct hsettled).pend hmem _ _ _
      · cases hplace
        exact h.pend hmem _ _ _
      · split at hplace
        · cases hplace
        · obtain ⟨settled, hsettled, hpend⟩ := bind_eq_ok_iff.mp hplace
          cases hpend
          exact (h.settle hdistinct hsettled).pend hmem _ _ _

theorem step (h : Sound level reading) {word : String} (hstep : reading.step level word = .ok reading') :
    Sound level reading' := by
  unfold Reading.step at hstep
  split at hstep
  · exact h.place hdistinct hstep
  · split at hstep
    · cases hstep
      exact ⟨h.pending_mem, h.holds⟩
    · exact h.long hdistinct hstep
    · exact h.short hdistinct hstep
    · split at hstep
      · next parameter values _ hpending =>
          cases hstep
          exact h.pend (h.pending_mem parameter values hpending) _ _ _
      · exact h.place hdistinct hstep

theorem read (h : Sound level reading) {words : List String} {next : Option (String × List String)}
    (hread : level.read reading words = .ok (reading', next)) : Sound level reading' := by
  induction words generalizing reading with
  | nil =>
      cases hread
      exact h
  | cons word rest ih =>
      unfold Level.read at hread
      split at hread
      · cases hread
        exact h
      · obtain ⟨stepped, hstep, hrest⟩ := bind_eq_ok_iff.mp hread
        exact ih (h.step hdistinct hstep) hrest

end Sound

end Reading

/-! ## The environment -/

namespace Level

variable {level : Level} {defined : List (String × String)} {given found found' : Given} {parameter : Parameter}

def environmentStep (defined : List (String × String)) (given found : Given) (parameter : Parameter) :
    Except Refusal Given :=
  match parameter.environment.bind (defined.lookup ·) with
  | none => .ok found
  | some value =>
    if given.has parameter.name then .ok found
    else match parameter.action.form.refusal? value with
      | some refusal => .error refusal
      | none => .ok (found.add parameter.name [value])

theorem environment_eq_foldlM (level : Level) (defined : List (String × String)) (given : Given) :
    level.environment defined given = level.parameters.foldlM (environmentStep defined given) [] := rfl

theorem lookup_environmentStep_of_ne (h : environmentStep defined given found parameter = .ok found') {name : String}
    (hname : name ≠ parameter.name) : found'.lookup name = found.lookup name := by
  unfold environmentStep at h
  split at h
  · cases h
    rfl
  · split at h
    · cases h
      rfl
    · split at h
      · cases h
      · cases h
        rw [Given.lookup_add, if_neg hname]

theorem lookup_environmentStep (h : environmentStep defined given found parameter = .ok found')
    (hgiven : given.lookup parameter.name = none) (hfound : found.lookup parameter.name = none) :
    found'.lookup parameter.name = (parameter.environment.bind (defined.lookup ·)).map ([·]) := by
  unfold environmentStep at h
  split at h
  · next hnone =>
      cases h
      rw [hnone, hfound]
      rfl
  · next value hvalue =>
      rw [Given.has, hgiven, if_neg (by simp)] at h
      split at h
      · cases h
      · cases h
        rw [Given.lookup_add, if_pos rfl, hfound, hvalue]
        rfl

theorem lookup_foldlM_environmentStep {parameters : List Parameter} (hnodup : (parameters.map (·.name)).Nodup)
    (h : parameters.foldlM (environmentStep defined given) found = .ok found') :
    (∀ name ∉ parameters.map (·.name), found'.lookup name = found.lookup name) ∧
    ∀ parameter ∈ parameters, given.lookup parameter.name = none → found.lookup parameter.name = none →
      found'.lookup parameter.name = (parameter.environment.bind (defined.lookup ·)).map ([·]) := by
  induction parameters generalizing found with
  | nil =>
      cases h
      exact ⟨fun _ _ => rfl, nofun⟩
  | cons first rest ih =>
      rw [List.foldlM_cons] at h
      obtain ⟨next, hnext, hrest⟩ := bind_eq_ok_iff.mp h
      rw [List.map_cons, List.nodup_cons] at hnodup
      obtain ⟨hothers, hgiven⟩ := ih hnodup.2 hrest
      constructor
      · intro name hname
        rw [List.map_cons, List.mem_cons, not_or] at hname
        rw [hothers name hname.2, lookup_environmentStep_of_ne hnext hname.1]
      · intro parameter hmem hnone hfound
        rcases List.mem_cons.mp hmem with rfl | hmem
        · rw [hothers _ hnodup.1, lookup_environmentStep hnext hnone hfound]
        · have hne : parameter.name ≠ first.name := fun heq => hnodup.1 (heq ▸ List.mem_map_of_mem hmem)
          exact hgiven parameter hmem hnone ((lookup_environmentStep_of_ne hnext hne).trans hfound)

theorem lookup_environment (hdistinct : level.Distinct) (h : level.environment defined given = .ok found)
    (hmem : parameter ∈ level.parameters) (hgiven : given.lookup parameter.name = none) :
    found.lookup parameter.name = (parameter.environment.bind (defined.lookup ·)).map ([·]) :=
  (lookup_foldlM_environmentStep hdistinct (environment_eq_foldlM level defined given ▸ h)).2 parameter hmem hgiven rfl

theorem environment_nil (level : Level) (given : Given) : level.environment [] given = .ok [] := by
  have hstep (found : Given) (parameter : Parameter) : environmentStep [] given found parameter = .ok found := by
    cases henvironment : parameter.environment <;> simp [environmentStep, henvironment]
  rw [environment_eq_foldlM]
  induction level.parameters with
  | nil => rfl
  | cons first rest ih => rw [List.foldlM_cons, hstep]; exact ih

theorem finish_eq_ok {reading : Reading} {environment : Given} (hdistinct : level.Distinct)
    (hsound : reading.Sound level) (h : level.finish defined reading = .ok (given, environment)) :
    level.Holds given ∧ level.environment defined given = .ok environment ∧
      level.finish [] reading = .ok (given, []) := by
  unfold finish at h ⊢
  simp only [bind_eq_ok_iff, pure_eq_ok_iff] at h
  obtain ⟨settled, hsettled, environment', henvironment, hpair⟩ := h
  cases hpair
  refine ⟨(hsound.settle hdistinct hsettled).holds, henvironment, ?_⟩
  rw [hsettled]
  change (do return (settled.given, ← level.environment [] settled.given)) = _
  rw [environment_nil]
  rfl

end Level

/-! ## Sources -/

def Level.named (name : String) : Level :=
  if name = "verify" then .verify else .perf

/-- A level whose parameters have names of their own, or share them with the same parameters before the subcommand. -/
structure Level.Subordinate (level : Level) : Prop where
  distinct : level.Distinct
  shared : ∀ parameter ∈ level.parameters, ∀ other ∈ Level.root.parameters, other.name = parameter.name →
    other = parameter

theorem Level.subordinate_named (name : String) : (Level.named name).Subordinate := by
  unfold Level.named
  split
  · exact ⟨by decide +kernel, by decide +kernel⟩
  · exact ⟨by decide +kernel, by decide +kernel⟩

theorem Parameter.Accepts.isSome_read {α : Type} {parameter : Parameter} {values : List String} {read? : String → Option α}
    (h : parameter.Accepts values) (haction : parameter.action ≠ .count)
    (hread : ∀ value, parameter.action.form.refusal? value = none → (read? value).isSome) :
    (values.head?.bind read?).isSome := by
  obtain ⟨value, rest, rfl⟩ := List.exists_cons_of_ne_nil h.ne_nil
  exact hread value (h.of_form haction value List.mem_cons_self)

namespace Sources

def commandLine (sources : Sources) : Sources :=
  { sources with environment := [] }

/-- The sources of a command: the command line gives what the parameters take, and the environment gives what the words
behind the subcommand do not. -/
structure Sound (level : Level) (defined : List (String × String)) (sources : Sources) : Prop where
  inner : level.Holds sources.inner
  outer : Level.root.Holds sources.outer
  environment : ∀ parameter ∈ level.parameters, sources.inner.lookup parameter.name = none →
    sources.environment.lookup parameter.name = (parameter.environment.bind (defined.lookup ·)).map ([·])

variable {level : Level} {defined : List (String × String)} {sources : Sources} {parameter : Parameter}

theorem Sound.accepts (h : sources.Sound level defined) (hlevel : level.Subordinate) (hmem : parameter ∈ level.parameters)
    {values : List String}
    (hvalues : (sources.inner.lookup parameter.name <|> sources.outer.lookup parameter.name) = some values) :
    parameter.Accepts values := by
  cases hinner : sources.inner.lookup parameter.name with
  | some held =>
      obtain ⟨other, hother, hname, haccepts⟩ := h.inner _ _ hinner
      obtain rfl := hlevel.distinct.eq_of_name_eq hother hmem hname
      rw [hinner] at hvalues
      obtain rfl : held = values := Option.some.inj hvalues
      exact haccepts
  | none =>
      rw [hinner] at hvalues
      obtain ⟨other, hother, hname, haccepts⟩ := h.outer _ _ hvalues
      obtain rfl := hlevel.shared parameter hmem other hother hname
      exact haccepts

/-- The values of a parameter are those of the command line, or else that of the environment. -/
theorem Sound.values_eq (h : sources.Sound level defined) (hmem : parameter ∈ level.parameters) :
    sources.values parameter.name =
      ((sources.inner.lookup parameter.name <|> sources.outer.lookup parameter.name).getD
        (parameter.environment.bind (defined.lookup ·)).toList) := by
  unfold values
  cases hinner : sources.inner.lookup parameter.name with
  | some values => rfl
  | none =>
      rw [h.environment parameter hmem hinner]
      cases sources.outer.lookup parameter.name <;> cases parameter.environment.bind (defined.lookup ·) <;> rfl

theorem values_commandLine (sources : Sources) (name : String) :
    sources.commandLine.values name = (sources.inner.lookup name <|> sources.outer.lookup name).getD [] := by
  unfold values commandLine
  cases sources.inner.lookup name <;> cases sources.outer.lookup name <;> rfl

theorem Sound.value?_eq {α : Type} (h : sources.Sound level defined) (hlevel : level.Subordinate)
    (hmem : parameter ∈ level.parameters) (haction : parameter.action ≠ .count) {read? : String → Option α}
    (hread : ∀ value, parameter.action.form.refusal? value = none → (read? value).isSome) :
    sources.value? parameter.name read? = (sources.commandLine.value? parameter.name read? <|>
      (parameter.environment.bind (defined.lookup ·)).bind read?) := by
  unfold value?
  rw [h.values_eq hmem, values_commandLine]
  cases hgiven : (sources.inner.lookup parameter.name <|> sources.outer.lookup parameter.name) with
  | some values =>
      obtain ⟨value, hvalue⟩ :=
        Option.isSome_iff_exists.mp ((h.accepts hlevel hmem hgiven).isSome_read haction hread)
      rw [Option.getD_some, Option.getD_some, hvalue]
      rfl
  | none => cases parameter.environment.bind (defined.lookup ·) <;> rfl

/-- The command line cannot switch a parameter off. -/
theorem Sound.value?_ne_false (h : sources.Sound level defined) (hlevel : level.Subordinate)
    (hmem : parameter ∈ level.parameters) (haction : parameter.action = .switch) :
    sources.commandLine.value? parameter.name truth? ≠ some false := by
  unfold value?
  rw [values_commandLine]
  cases hgiven : (sources.inner.lookup parameter.name <|> sources.outer.lookup parameter.name) with
  | some values =>
      have haccepts := h.accepts hlevel hmem hgiven
      obtain ⟨value, rest, rfl⟩ := List.exists_cons_of_ne_nil haccepts.ne_nil
      obtain rfl := haccepts.switched_on haction value List.mem_cons_self
      have htruth : truth? "true" ≠ some false := by decide
      exact htruth
  | none => simp

end Sources

/-- A command line that is read, is read without the environment too, and the environment only adds to it. -/
theorem sources_eq_ok {words : List String} {defined : List (String × String)} {name : String} {sources : Sources}
    (h : Settings.sources words defined = .ok (name, sources)) :
    sources.Sound (Level.named name) defined ∧ Settings.sources words [] = .ok (name, sources.commandLine) := by
  have hdistinct : Level.root.Distinct := by decide +kernel
  unfold Settings.sources at h ⊢
  obtain ⟨⟨root, next⟩, hroot, h⟩ := bind_eq_ok_iff.mp h
  have hsound := (Reading.Sound.start Level.root).read hdistinct hroot
  cases next with
  | none => simp [bind_eq_ok_iff] at h
  | some subcommand =>
      obtain ⟨name', rest⟩ := subcommand
      simp only [ite_throw_eq_ok_iff, bind_eq_ok_iff, pure_eq_ok_iff] at h
      obtain ⟨hhelp, ⟨reading, behind⟩, hread, ⟨inner, environment⟩, hinner, ⟨outer, _⟩, houter, heq⟩ := h
      cases heq
      have hlevel := Level.subordinate_named name
      obtain ⟨hholds, henvironment, hinner'⟩ := Level.finish_eq_ok hlevel.distinct
        ((Reading.Sound.start _).read hlevel.distinct hread) hinner
      obtain ⟨hholds', -, houter'⟩ := Level.finish_eq_ok hdistinct hsound houter
      refine ⟨⟨hholds, hholds', fun parameter hmem hnone =>
        Level.lookup_environment hlevel.distinct henvironment hmem hnone⟩, ?_⟩
      refine bind_eq_ok_iff.mpr ⟨_, hroot, ?_⟩
      simp only [ite_throw_eq_ok_iff, bind_eq_ok_iff, pure_eq_ok_iff]
      exact ⟨hhelp, _, hread, _, hinner', _, houter', rfl⟩

end MetaParity.Settings
