import MetaParity.Proofs.Compare
import MetaParity.Proofs.Except
import MetaParity.Proofs.Model.Listing

/-! # Signatures that do not resolve

A scenario that looks signatures up fails at the first that has no blob. Every other scenario, and every scenario over
signatures that all have one, lists something. -/

namespace MetaParity

def Scenario.looksUp : Scenario → Bool
  | sigFromToken | signatureBlobs => true
  | _ => false

namespace Model

def unresolved? (model : Model) (scenario : Scenario) : Option Token :=
  if scenario.looksUp then (model.items .signatures).find? fun token => (model.blob? token).isNone else none

variable {model : Model} {β : Type}

/-! ## Lookups in order -/

theorem lookup_of_isNone {token : Token} (h : (model.blob? token).isNone) :
    model.lookup token = .error (.lookupFailed token .recordNotFound) := by
  rw [lookup, Option.isNone_iff_eq_none.mp h]

theorem lookup_of_isSome {token : Token} (h : (model.blob? token).isSome) : ∃ blob, model.lookup token = .ok blob := by
  obtain ⟨bytes, hbytes⟩ := Option.isSome_iff_exists.mp h
  exact ⟨{ bytes }, by rw [lookup, hbytes]⟩

theorem exists_mapM_lookup {f : Token → Blob → β} {tokens : List Token}
    (h : tokens.find? (fun token => (model.blob? token).isNone) = none) :
    ∃ values, (tokens.mapM fun token => do return f token (← model.lookup token)) = .ok values := by
  refine exists_mapM_eq_ok fun token hmem => ?_
  obtain ⟨blob, hblob⟩ := lookup_of_isSome (by simpa [Option.isSome_iff_ne_none] using List.find?_eq_none.mp h token hmem)
  exact ⟨f token blob, by rw [hblob]; rfl⟩

theorem mapM_lookup_eq_error {f : Token → Blob → β} {tokens : List Token} {token : Token}
    (h : tokens.find? (fun token => (model.blob? token).isNone) = some token) :
    (tokens.mapM fun token => do return f token (← model.lookup token)) =
      .error (.lookupFailed token .recordNotFound) := by
  obtain ⟨hnone, before, after, rfl, hbefore⟩ := List.find?_eq_some_iff_append.mp h
  refine mapM_eq_error (fun earlier hmem => ?_) ?_
  · obtain ⟨blob, hblob⟩ := lookup_of_isSome (by simpa using hbefore earlier hmem)
    exact ⟨f earlier blob, by rw [hblob]; rfl⟩
  · rw [lookup_of_isNone hnone]
    rfl

/-! ## Scenarios -/

theorem listing_of_unresolved {scenario : Scenario} {token : Token} (h : model.unresolved? scenario = some token) :
    model.listing scenario = .error (.lookupFailed token .recordNotFound) := by
  cases scenario with
  | sigFromToken =>
      have hrecords := mapM_lookup_eq_error (f := fun _ blob => (⟨blob.address, blob.bytes.length⟩ : SignatureRecord)) h
      exact congrArg (Listing.records <$> ·) hrecords
  | signatureBlobs =>
      have hblobs := mapM_lookup_eq_error (f := fun token blob => (⟨token, blob.bytes⟩ : SignatureBlob)) h
      exact congrArg (Listing.blobs <$> ·) hblobs
  | typeDefs | typeRefs | typeSpecs | moduleRefs | signatures | userStrings | typeHierarchy | members
  | propertiesEvents | resetEnum => cases h

theorem exists_listing {scenario : Scenario} (h : model.unresolved? scenario = none) :
    ∃ listing, model.listing scenario = .ok listing := by
  cases scenario with
  | sigFromToken =>
      obtain ⟨records, hrecords⟩ :=
        exists_mapM_lookup (f := fun _ blob => (⟨blob.address, blob.bytes.length⟩ : SignatureRecord)) h
      exact ⟨.records records, congrArg (Listing.records <$> ·) hrecords⟩
  | signatureBlobs =>
      obtain ⟨blobs, hblobs⟩ := exists_mapM_lookup (f := fun token blob => (⟨token, blob.bytes⟩ : SignatureBlob)) h
      exact ⟨.blobs blobs, congrArg (Listing.blobs <$> ·) hblobs⟩
  | typeDefs | typeRefs | typeSpecs | moduleRefs | signatures | userStrings | typeHierarchy | members
  | propertiesEvents | resetEnum => exact ⟨_, rfl⟩

/-! ## Two models -/

theorem address_of_resolved {token : Token} {record : SignatureRecord} (h : model.resolved token = .ok record) :
    record.address = 0 := by
  obtain ⟨blob, hblob, hvalue⟩ := bind_eq_ok_iff.mp h
  obtain rfl := pure_eq_ok_iff.mp hvalue
  unfold lookup at hblob
  split at hblob
  · obtain rfl := Except.ok.inj hblob
    rfl
  · cases hblob

/-- A model keeps all its signatures at one address. -/
theorem records_of_listing {listing : Listing} (h : model.listing .sigFromToken = .ok listing) :
    ∃ records, listing = .records records ∧ ∀ record ∈ records, record.address = 0 := by
  obtain ⟨records, hrecords, rfl⟩ := map_eq_ok_iff.mp h
  have hall : List.Forall₂ (fun record token => record.address = 0 ∧ model.resolved token = .ok record) records
      (model.items .signatures) :=
    (mapM_eq_ok_iff.mp hrecords).flip.imp fun _ _ hrecord => ⟨address_of_resolved hrecord, hrecord⟩
  exact ⟨records, rfl, ((List.forall₂_and_left _ _).mp hall).1⟩

theorem exact_of_listing {model' : Model} {scenario : Scenario} {b c : Listing} (hb : model.listing scenario = .ok b)
    (hc : model'.listing scenario = .ok c) : b.Exact c := by
  cases scenario with
  | sigFromToken =>
      obtain ⟨records, rfl, haddress⟩ := records_of_listing hb
      obtain ⟨records', rfl, haddress'⟩ := records_of_listing hc
      exact .records fun b hb c hc => by rw [haddress b hb, haddress' c hc]
  | signatureBlobs =>
      obtain ⟨blobs, -, rfl⟩ := map_eq_ok_iff.mp hb
      obtain ⟨blobs', -, rfl⟩ := map_eq_ok_iff.mp hc
      exact .blobs _ _
  | typeDefs | typeRefs | typeSpecs | moduleRefs | signatures | userStrings | typeHierarchy | members
  | propertiesEvents | resetEnum =>
      obtain rfl := Except.ok.inj hb
      obtain rfl := Except.ok.inj hc
      exact .tokens _ _

end Model

end MetaParity
