import MetaParity.Proofs.Memory.Collect
import MetaParity.Proofs.Memory.Independence
import MetaParity.Proofs.Run.Mirror

/-! # Signatures by length and by bytes

Signatures are listed in two ways, by their lengths and by their bytes. On an in-memory session both ways end alike
under all faults, so that two sides on which the bytes agree also agree on the lengths and on the tokens. -/

namespace MetaParity

/-- 32 bits count the bytes of every blob. -/
def Model.BlobsFit (model : Model) : Prop :=
  ∀ token bytes, model.blob? token = some bytes → bytes.length < 0x100000000

theorem Model.blobsFit_of_blobs {model : Model} (h : ∀ blob ∈ model.blobs, blob.2.length < 0x100000000) :
    model.BlobsFit := by
  intro token bytes hbytes
  obtain ⟨blob, hblob, rfl⟩ := Option.map_eq_some_iff.mp hbytes
  exact h blob (List.mem_of_find?_eq_some hblob)

namespace Memory

section

variable (model : Model) (faults : FaultPlan)

/-- What a lookup answers: the blob of a token, or a failure that names the token. -/
def lookedUp (token : Token) : Except Failure Blob :=
  (signature model faults token).mapError (.lookupFailed token)

/-- The length of a token's signature, if 32 bits hold it. -/
def measured (token : Token) : Except Failure SignatureRecord := do
  let blob ← lookedUp model faults token
  if blob.bytes.length < 0x100000000 then return ⟨blob.address, blob.bytes.length⟩
  else .error (.lookupFailed token .invalidArgument)

def resolvedUnder (token : Token) : Except Failure SignatureRecord := do
  let blob ← lookedUp model faults token
  return ⟨blob.address, blob.bytes.length⟩

def copiedUnder (token : Token) : Except Failure SignatureBlob := do
  let blob ← lookedUp model faults token
  return ⟨token, blob.bytes⟩

/-- How the two ways to list signatures end, by how the enumeration of their tokens does. -/
inductive Resolution : Except Failure (List Token) → Except Failure (List SignatureRecord) →
    Except Failure (List SignatureBlob) → Prop where
  | unlisted (failure : Failure) : Resolution (.error failure) (.error failure) (.error failure)
  | unresolved {before after : List Token} {token : Token} {status : Status} :
      (∀ earlier ∈ before, ∃ blob, signature model faults earlier = .ok blob) →
      signature model faults token = .error status →
      Resolution (.ok (before ++ token :: after)) (.error (.lookupFailed token status))
        (.error (.lookupFailed token status))
  | resolved {tokens : List Token} {records : List SignatureRecord} {blobs : List SignatureBlob} :
      List.Forall₂ (fun token blob => blob.token = token ∧
        ∃ found, signature model faults token = .ok found ∧ found.bytes = blob.bytes) tokens blobs →
      List.Forall₂ (fun record blob => record.length = blob.bytes.length) records blobs →
      Resolution (.ok tokens) (.ok records) (.ok blobs)

end

variable {model : Model} {faults : FaultPlan}

/-! ## Lookups in order -/

section

variable {token : Token}

theorem entries_of_signature {blob : Blob} (h : signature model faults token = .ok blob) :
    resolvedUnder model faults token = .ok ⟨blob.address, blob.bytes.length⟩ ∧
      copiedUnder model faults token = .ok ⟨token, blob.bytes⟩ := by
  rw [resolvedUnder, copiedUnder, lookedUp, h]
  exact ⟨rfl, rfl⟩

theorem failures_of_signature {status : Status} (h : signature model faults token = .error status) :
    resolvedUnder model faults token = .error (.lookupFailed token status) ∧
      copiedUnder model faults token = .error (.lookupFailed token status) := by
  rw [resolvedUnder, copiedUnder, lookedUp, h]
  exact ⟨rfl, rfl⟩

theorem length_lt_of_lookedUp (hfit : model.BlobsFit) {blob : Blob} (h : lookedUp model faults token = .ok blob) :
    blob.bytes.length < 0x100000000 := by
  unfold lookedUp signature at h
  split at h
  · cases h
  · split at h
    · next bytes hbytes =>
        obtain rfl := Except.ok.inj h
        exact hfit token bytes hbytes
    · cases h

end

theorem measured_eq_resolvedUnder (faults : FaultPlan) (hfit : model.BlobsFit) :
    measured model faults = resolvedUnder model faults := by
  funext token
  unfold measured resolvedUnder
  cases hblob : lookedUp model faults token with
  | error failure => rfl
  | ok blob => exact if_pos (length_lt_of_lookedUp hfit hblob)

theorem resolution_of_resolved {tokens : List Token}
    (h : ∀ token ∈ tokens, ∃ blob, signature model faults token = .ok blob) :
    Resolution model faults (.ok tokens) (tokens.mapM (resolvedUnder model faults))
      (tokens.mapM (copiedUnder model faults)) := by
  induction tokens with
  | nil => exact .resolved .nil .nil
  | cons token tokens ih =>
      obtain ⟨⟨blob, hblob⟩, htokens⟩ := List.forall_mem_cons.mp h
      obtain ⟨hrecord, hcopy⟩ := entries_of_signature hblob
      rw [List.mapM_cons, List.mapM_cons, hrecord, hcopy]
      have hends := ih htokens
      revert hends
      generalize tokens.mapM (resolvedUnder model faults) = records
      generalize tokens.mapM (copiedUnder model faults) = blobs
      intro hends
      cases hends with
      | unresolved hbefore hfails =>
          obtain ⟨found, hfound⟩ := htokens _ (List.mem_append_right _ List.mem_cons_self)
          rw [hfails] at hfound
          cases hfound
      | resolved hcopies hlengths => exact .resolved (.cons ⟨rfl, blob, hblob, rfl⟩ hcopies) (.cons rfl hlengths)

/-- Both ways end alike with whatever was enumerated. -/
theorem resolution_mapM (model : Model) (faults : FaultPlan) (enumerated : Except Failure (List Token)) :
    Resolution model faults enumerated (enumerated >>= (·.mapM (resolvedUnder model faults)))
      (enumerated >>= (·.mapM (copiedUnder model faults))) := by
  cases enumerated with
  | error failure => exact .unlisted failure
  | ok tokens =>
      change Resolution model faults _ (tokens.mapM (resolvedUnder model faults))
        (tokens.mapM (copiedUnder model faults))
      rcases forall_ok_or_first_error (signature model faults) tokens with
        hall | ⟨before, token, after, status, rfl, hbefore, hfails⟩
      · exact resolution_of_resolved hall
      · obtain ⟨hrecord, hcopy⟩ := failures_of_signature hfails
        have hentries := fun earlier hmem => entries_of_signature (hbefore earlier hmem).choose_spec
        rw [mapM_eq_error (fun earlier hmem => ⟨_, (hentries earlier hmem).1⟩) hrecord,
          mapM_eq_error (fun earlier hmem => ⟨_, (hentries earlier hmem).2⟩) hcopy]
        exact .unresolved hbefore hfails

/-! ## Sessions -/

section

variable {α β : Type} {count : Nat}

theorem Enumerates.bind {m : Drive State α} {f : α → Drive State β} {answer : Except Failure α}
    {g : α → Except Failure β} (hm : Enumerates m answer count)
    (hf : ∀ a, answer = .ok a → Enumerates (f a) (g a) 0) : Enumerates (m >>= f) (answer >>= g) count := by
  cases answer with
  | error failure => exact hm.stop f
  | ok a => exact hm.andThen (hf a rfl)

theorem Enumerates.map {m : Drive State α} {answer : Except Failure α} (f : α → β) (hm : Enumerates m answer count) :
    Enumerates (f <$> m) (f <$> answer) count := by
  rw [map_eq_pure_bind, map_eq_pure_bind]
  exact hm.bind fun a _ => enumerates_pure (f a)

theorem Enumerates.eq_of_yields {m : Drive State α} {answer answer' : Except Failure α} (h : Enumerates m answer count)
    (hyields : Drive.Yields (fun _ => True) m answer' (fun _ => True)) : answer' = answer :=
  eq_of_mapError_failed ((hyields {} trivial).1.symm.trans (congrArg Prod.fst (h {} (State.numbered_of_entries rfl))))

theorem enumerates_mapM {f : α → Drive State β} {g : α → Except Failure β} (h : ∀ item, Enumerates (f item) (g item) 0)
    (items : List α) : Enumerates (items.mapM f) (items.mapM g) 0 := by
  induction items with
  | nil => exact enumerates_pure []
  | cons item items ih =>
      rw [List.mapM_cons, List.mapM_cons]
      exact (h item).bind fun b _ => ih.bind fun bs _ => enumerates_pure (b :: bs)

end

section

variable (model : Model) (faults : FaultPlan) (capacity : Nat)

theorem enumerates_lookup (token : Token) :
    Enumerates ((Lister.of (session model faults) capacity).lookup token) (lookedUp model faults token) 0 :=
  fun _ _ => rfl

theorem enumerates_resolve (token : Token) :
    Enumerates ((Lister.of (session model faults) capacity).resolve token) (measured model faults token) 0 := by
  refine (enumerates_lookup model faults capacity token).bind fun blob _ => ?_
  split
  · exact enumerates_pure _
  · exact enumerates_fail _

theorem enumerates_copy (token : Token) :
    Enumerates ((Lister.of (session model faults) capacity).copy token) (copiedUnder model faults token) 0 :=
  (enumerates_lookup model faults capacity token).bind fun _ _ => enumerates_pure _

theorem enumerates_measuredSignatures :
    Enumerates (Lister.of (session model faults) capacity).resolveSignatures
      (collected model faults .signatures (max capacity 1) >>= (·.mapM (measured model faults))) 1 :=
  (enumerates_collected model faults .signatures capacity).bind
    fun tokens _ => (enumerates_mapM (enumerates_resolve model faults capacity) tokens)

theorem enumerates_resolveSignatures (hfit : model.BlobsFit) :
    Enumerates (Lister.of (session model faults) capacity).resolveSignatures
      (collected model faults .signatures (max capacity 1) >>= (·.mapM (resolvedUnder model faults))) 1 := by
  rw [← measured_eq_resolvedUnder faults hfit]
  exact enumerates_measuredSignatures model faults capacity

theorem enumerates_copySignatures :
    Enumerates (Lister.of (session model faults) capacity).copySignatures
      (collected model faults .signatures (max capacity 1) >>= (·.mapM (copiedUnder model faults))) 1 :=
  (enumerates_collected model faults .signatures capacity).bind
    fun tokens _ => (enumerates_mapM (enumerates_copy model faults capacity) tokens)

end

/-! ## Sides -/

section

variable {model' : Model} {faults' : FaultPlan} {enumerated enumerated' : Except Failure (List Token)}
  {records records' : Except Failure (List SignatureRecord)} {blobs blobs' : Except Failure (List SignatureBlob)}

theorem tokens_eq_of_copies {tokens : List Token} {blobs : List SignatureBlob}
    (h : List.Forall₂ (fun token blob => blob.token = token ∧
      ∃ found, signature model faults token = .ok found ∧ found.bytes = blob.bytes) tokens blobs) :
    tokens = blobs.map (·.token) := by
  rw [← List.forall₂_eq_eq_eq, List.forall₂_map_right_iff]
  exact h.imp fun _ _ hcopy => hcopy.1.symm

theorem lengths_eq_of_blobs {records : List SignatureRecord} {blobs : List SignatureBlob}
    (h : List.Forall₂ (fun record blob => record.length = blob.bytes.length) records blobs) :
    records.map (·.length) = blobs.map (·.bytes.length) := by
  rw [← List.forall₂_eq_eq_eq, List.forall₂_map_left_iff, List.forall₂_map_right_iff]
  exact h

/-- Sides whose signatures agree by their bytes agree by their lengths and in their tokens. -/
theorem Resolution.verdicts_of_blobs (h : Resolution model faults enumerated records blobs)
    (h' : Resolution model' faults' enumerated' records' blobs') {context : Nat} {items : Nat × Nat}
    (hpasses : Run.verdict context .signatureBlobs (Listing.blobs <$> blobs) (Listing.blobs <$> blobs') = .ok items)
    (context' : Nat) :
    Run.verdict context' .sigFromToken (Listing.records <$> records) (Listing.records <$> records') = .ok items ∧
      Run.verdict context' .signatures (Listing.tokens <$> enumerated) (Listing.tokens <$> enumerated') =
        .ok items := by
  cases h with
  | unlisted | unresolved => cases hpasses
  | @resolved tokens records blobs hcopies hlengths =>
      cases h' with
      | unlisted | unresolved => cases hpasses
      | @resolved tokens' records' blobs' hcopies' hlengths' =>
          obtain ⟨hcompare, rfl⟩ := Run.verdict_ok_eq_ok_iff.mp hpasses
          obtain rfl := Listing.compare_blobs_eq_none_iff.mp hcompare
          have htokens := tokens_eq_of_copies hcopies
          have htokens' := tokens_eq_of_copies hcopies'
          have hmapped := lengths_eq_of_blobs hlengths
          have hmapped' := lengths_eq_of_blobs hlengths'
          have hcounts : records.length = blobs.length ∧ records'.length = blobs.length :=
            ⟨hlengths.length_eq, hlengths'.length_eq⟩
          constructor
          · refine Run.verdict_ok_eq_ok_iff.mpr ⟨?_, ?_⟩
            · rw [Listing.compare_records_eq_none_iff, hmapped, hmapped']
            · rw [Listing.length, Listing.length, Listing.length, hcounts.1, hcounts.2]
          · refine Run.verdict_ok_eq_ok_iff.mpr ⟨?_, ?_⟩
            · rw [Listing.compare_tokens_eq_none_iff, htokens, htokens']
            · rw [htokens, htokens', Listing.length, Listing.length, List.length_map]

end

theorem answers_signatures (hfit : model.BlobsFit) {capacity : Nat} {side : Side}
    {answers : Scenario → Bool → Except Failure Listing}
    (hanswers : ∀ scenario strictReset, Drive.Yields (fun _ => True)
      (scenario.run (Lister.of (session model faults) capacity) side strictReset) (answers scenario strictReset)
      (fun _ => True)) :
    ∃ enumerated records blobs, Resolution model faults enumerated records blobs ∧ ∀ strictReset,
      answers .signatures strictReset = Listing.tokens <$> enumerated ∧
      answers .sigFromToken strictReset = Listing.records <$> records ∧
      answers .signatureBlobs strictReset = Listing.blobs <$> blobs :=
  ⟨_, _, _, resolution_mapM model faults (collected model faults .signatures (max capacity 1)), fun strictReset =>
    ⟨((enumerates_collected model faults .signatures capacity).map _).eq_of_yields (hanswers .signatures strictReset),
    ((enumerates_resolveSignatures model faults capacity hfit).map _).eq_of_yields (hanswers .sigFromToken strictReset),
    ((enumerates_copySignatures model faults capacity).map _).eq_of_yields (hanswers .signatureBlobs strictReset)⟩⟩

/-- The two ways to list signatures end alike, with one failure or with an entry for each token. Sides that pass the
comparison of the bytes pass that of the lengths and that of the tokens. -/
theorem signatures_agree :
    (∀ (model : Model) (faults : FaultPlan), model.BlobsFit → ∀ (capacity : Nat)
      (requests requests' requests'' : List Request),
      let lister := Lister.of (session model faults) capacity
      let state := State.after model faults
      ∃ enumerated records blobs,
        (lister.collect .signatures).run (state requests) =
          (enumerated.mapError .failed, (state requests).enumerated 1) ∧
        lister.resolveSignatures.run (state requests') =
          (records.mapError .failed, (state requests').enumerated 1) ∧
        lister.copySignatures.run (state requests'') = (blobs.mapError .failed, (state requests'').enumerated 1) ∧
        Resolution model faults enumerated records blobs) ∧
    ∀ (baseline current : Model × FaultPlan), baseline.1.BlobsFit → current.1.BlobsFit →
      ∀ {config config' : RunConfig}, config.bufferCapacity = config'.bufferCapacity →
      ∀ {pair opened s pair' opened' s'}, Opens baseline current pair opened → Run.Earlier pair opened s →
        Opens baseline current pair' opened' → Run.Earlier pair' opened' s' →
      ∀ {items : Nat × Nat}, ((Run.execute config pair .signatureBlobs).run s).1 = some (.ok items) →
        ((Run.execute config' pair' .sigFromToken).run s').1 = some (.ok items) ∧
        ((Run.execute config' pair' .signatures).run s').1 = some (.ok items) := by
  constructor
  · intro model faults hfit capacity requests requests' requests'' lister state
    have hnumbered := State.numbered_after model faults
    exact ⟨_, _, _, enumerates_collected model faults .signatures capacity _ (hnumbered requests),
      enumerates_resolveSignatures model faults capacity hfit _ (hnumbered requests'),
      enumerates_copySignatures model faults capacity _ (hnumbered requests''), resolution_mapM model faults _⟩
  · intro baseline current hbaseline hcurrent config config' hcapacity pair opened s pair' opened' s' hopens hearlier
      hopens' hearlier' items hpasses
    have hanswer (side : Side) (scenario : Scenario) (strictReset : Bool) :=
      exists_yields_scenario (side.pick (baseline, current)).1 (side.pick (baseline, current)).2 config.bufferCapacity
        scenario side strictReset
    choose answers hanswers using hanswer
    have hexecute (scenario : Scenario) : ((Run.execute config pair scenario).run s).1 = _ :=
      execute_eq_verdict (fun side scenario => hanswers side scenario config.strictReset) hopens hearlier scenario
    have hexecute' (scenario : Scenario) : ((Run.execute config' pair' scenario).run s').1 = _ :=
      execute_eq_verdict (fun side scenario => hcapacity ▸ hanswers side scenario config'.strictReset) hopens' hearlier'
        scenario
    obtain ⟨_, _, _, hbaselineEnds, hbaselineAnswers⟩ := answers_signatures hbaseline (hanswers .baseline)
    obtain ⟨_, _, _, hcurrentEnds, hcurrentAnswers⟩ := answers_signatures hcurrent (hanswers .current)
    rw [hexecute .signatureBlobs, (hbaselineAnswers _).2.2, (hcurrentAnswers _).2.2] at hpasses
    obtain ⟨hrecords, htokens⟩ :=
      hbaselineEnds.verdicts_of_blobs hcurrentEnds (Option.some.inj hpasses) config'.context
    rw [hexecute' .sigFromToken, hexecute' .signatures, (hbaselineAnswers _).2.1, (hcurrentAnswers _).2.1,
      (hbaselineAnswers _).1, (hcurrentAnswers _).1, hrecords, htokens]
    exact ⟨rfl, rfl⟩

/-- A nil token that one side lists and that the other side's pages claim by mistake, behind a count that hides it. -/
theorem signatures_agree_hidden :
    let blobs : Blobs := [(.nil, [1, 2]), (⟨0x11000001⟩, [7])]
    let baseline : Model := { signatures := [⟨0x11000001⟩], blobs }
    let current : Model := { signatures := [⟨0x11000001⟩, .nil], blobs }
    let faults : FaultPlan := { pageOverrun := some .signatures, countSkew := some (.signatures, 1) }
    let lister := Lister.of (session baseline faults) 3
    let config : RunConfig := { bufferCapacity := 3, strictReset := true }
    let pair := pairAt (baseline, faults) (current, {}) 0 0
    let opened : DispenserState × DispenserState := ({ tables := [{}] }, { tables := [{}] })
    let copying := (Run.execute config pair .signatureBlobs).run opened
    baseline.BlobsFit ∧ current.BlobsFit ∧ Opens (baseline, faults) (current, {}) pair opened ∧
    (∃ records copies, lister.resolveSignatures.run {} = (records.mapError .failed, State.enumerated {} 1) ∧
      lister.copySignatures.run {} = (copies.mapError .failed, State.enumerated {} 1) ∧
      Resolution baseline faults (.ok [⟨0x11000001⟩, .nil]) records copies) ∧
    copying.1 = some (.ok (2, 2)) ∧
    ((Run.execute { bufferCapacity := 3 } pair .sigFromToken).run copying.2).1 = some (.ok (2, 2)) ∧
    ((Run.execute { bufferCapacity := 3 } pair .signatures).run copying.2).1 = some (.ok (2, 2)) := by
  intro blobs baseline current faults lister config pair opened copying
  have hblobs : ∀ blob ∈ blobs, blob.2.length < 0x100000000 := by decide
  have hbaseline : baseline.BlobsFit := Model.blobsFit_of_blobs hblobs
  have hcurrent : current.BlobsFit := Model.blobsFit_of_blobs hblobs
  have hopens : Opens (baseline, faults) (current, {}) pair opened := ⟨[], ({}, {}), rfl⟩
  have hcollected : ((lister.collect .signatures).run {}).1.toOption = some [⟨0x11000001⟩, .nil] := by
    decide +kernel
  have hpassed : copying.1.map Except.toOption = some (some (2, 2)) := by
    decide +kernel
  have hcopied : copying.1 = some (.ok (2, 2)) := by
    rcases Option.map_eq_some_iff.mp hpassed with ⟨_ | items, hrun, hitems⟩
    · cases hitems
    · rw [hrun, Option.some.inj hitems]
  have hcapacity : config.bufferCapacity = ({ bufferCapacity := 3 } : RunConfig).bufferCapacity := rfl
  obtain ⟨hone, hpairs⟩ := signatures_agree
  refine ⟨hbaseline, hcurrent, hopens, ?_, hcopied, hpairs (baseline, faults) (current, {}) hbaseline hcurrent hcapacity
    hopens .opened hopens (.execute config .signatureBlobs .opened) hcopied⟩
  obtain ⟨enumerated, records, copies, hlist, hresolve, hcopy, hends⟩ := hone baseline faults hbaseline 3 [] [] []
  have henumerated : enumerated = .ok [⟨0x11000001⟩, .nil] := by
    rw [show (lister.collect .signatures).run {} = _ from hlist] at hcollected
    cases enumerated with
    | error failure => cases hcollected
    | ok tokens => rw [Option.some.inj hcollected]
  rw [henumerated] at hends
  exact ⟨records, copies, hresolve, hcopy, hends⟩

end Memory

end MetaParity
