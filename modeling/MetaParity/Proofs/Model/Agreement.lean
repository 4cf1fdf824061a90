import MetaParity.Proofs.Model.Unresolved
import MetaParity.Proofs.Model.WellFormed

/-! # Agreement of models

Two well-formed models list the same in every scenario exactly when they agree on everything but the blobs that nothing
lists. -/

namespace MetaParity.Model

/-- Two models hold the same, blobs of tokens that are no signatures apart. -/
structure Agree (model model' : Model) : Prop where
  types_eq : model.types = model'.types
  typeRefs_eq : model.typeRefs = model'.typeRefs
  typeSpecs_eq : model.typeSpecs = model'.typeSpecs
  moduleRefs_eq : model.moduleRefs = model'.moduleRefs
  userStrings_eq : model.userStrings = model'.userStrings
  signatures_eq : model.signatures = model'.signatures
  blob_eq : ∀ token ∈ model.signatures, model.blob? token = model'.blob? token

def Signed (model : Model) : Prop :=
  ∀ token ∈ model.signatures, (model.blob? token).isSome

variable {model model' : Model}

/-! ## Models that agree list the same -/

theorem Agree.items_eq (h : model.Agree model') : model.items = model'.items := by
  funext query
  cases query <;>
    simp only [items, below, type?, method?, h.types_eq, h.typeRefs_eq, h.typeSpecs_eq, h.moduleRefs_eq,
      h.userStrings_eq, h.signatures_eq]

mutual

theorem listed_congr (h : model.items = model'.items) : ∀ (walk : Walk) (parent : Token),
    walk.listed model parent = walk.listed model' parent
  | .category query counted nested, parent => by
      rw [Walk.listed, Walk.listed, h]
      exact List.flatMap_congr fun token _ => by rw [allListed_congr h nested token]

theorem allListed_congr (h : model.items = model'.items) : ∀ (walks : List Walk) (parent : Token),
    Walk.allListed model walks parent = Walk.allListed model' walks parent
  | [], parent => by rw [Walk.allListed, Walk.allListed]
  | walk :: rest, parent => by
      rw [Walk.allListed, Walk.allListed, listed_congr h walk parent, allListed_congr h rest parent]

end

theorem composed_congr (h : model.items = model'.items) (walks : List Walk) :
    model.composed walks = model'.composed walks := by
  rw [composed, composed, h]
  exact List.flatMap_congr fun token _ => by rw [allListed_congr h walks token]

theorem Agree.listing_eq (h : model.Agree model') (scenario : Scenario) :
    model.listing scenario = model'.listing scenario := by
  have hitems := h.items_eq
  have hlookup : ∀ token ∈ model'.items .signatures, model.lookup token = model'.lookup token := by
    intro token hmem
    rw [lookup, h.blob_eq token (by rwa [← congrFun hitems] at hmem), lookup]
  cases scenario with
  | typeDefs | typeRefs | typeSpecs | moduleRefs | signatures | userStrings => simp only [listing, hitems]
  | typeHierarchy | members | propertiesEvents => simp only [listing, composed_congr hitems]
  | resetEnum => simp only [listing, replayed, hitems]
  | sigFromToken =>
      rw [listing, listing, hitems, mapM_congr fun token hmem => ?_]
      rw [resolved, hlookup token hmem, resolved]
  | signatureBlobs =>
      rw [listing, listing, hitems, mapM_congr fun token hmem => ?_]
      rw [copied, hlookup token hmem, copied]

/-! ## Signatures that resolve -/

theorem copied_eq_ok_iff {token : Token} {blob : SignatureBlob} :
    model.copied token = .ok blob ↔ blob.token = token ∧ model.blob? token = some blob.bytes := by
  rcases blob with ⟨other, bytes⟩
  rw [copied, lookup]
  cases model.blob? token with
  | none => exact ⟨fun h => (by cases h), fun h => (by cases h.2)⟩
  | some held =>
      constructor
      · intro h
        obtain ⟨rfl, rfl⟩ := SignatureBlob.mk.inj (Except.ok.inj h)
        exact ⟨rfl, rfl⟩
      · rintro ⟨rfl, hbytes⟩
        obtain rfl := Option.some.inj hbytes
        rfl

theorem Signed.unresolved?_eq_none (h : model.Signed) (scenario : Scenario) : model.unresolved? scenario = none := by
  unfold unresolved?
  split
  · exact List.find?_eq_none.mpr fun token hmem => by simpa [Option.isSome_iff_ne_none] using h token hmem
  · rfl

/-! ## Models that list the same agree -/

theorem copies_of_mapM {tokens : List Token} {blobs : List SignatureBlob} (h : tokens.mapM model.copied = .ok blobs) :
    tokens = blobs.map (·.token) ∧ ∀ blob ∈ blobs, model.blob? blob.token = some blob.bytes := by
  have hcopies := mapM_eq_ok_iff.mp h
  clear h
  induction hcopies with
  | nil => exact ⟨rfl, by simp⟩
  | cons hcopy _ ih =>
      obtain ⟨rfl, hblob⟩ := copied_eq_ok_iff.mp hcopy
      exact ⟨by rw [ih.1, List.map_cons], List.forall_mem_cons.mpr ⟨hblob, ih.2⟩⟩

theorem copies_of_listing {listing : Listing} (h : model.listing .signatureBlobs = .ok listing) :
    ∃ blobs, listing = .blobs blobs ∧ model.signatures.mapM model.copied = .ok blobs := by
  obtain ⟨blobs, hblobs, rfl⟩ := map_eq_ok_iff.mp h
  exact ⟨blobs, rfl, hblobs⟩

theorem signed_of_same {context : Nat}
    (h : Listing.Same context .signatureBlobs (model.listing .signatureBlobs) (model'.listing .signatureBlobs)) :
    model.Signed ∧ model'.Signed ∧ ∀ token ∈ model.signatures, model.blob? token = model'.blob? token := by
  obtain ⟨listing, listing', hlisting, hlisting', hcompare⟩ := h
  obtain ⟨blobs, rfl, hcopies⟩ := copies_of_listing hlisting
  obtain ⟨blobs', rfl, hcopies'⟩ := copies_of_listing hlisting'
  obtain rfl := Listing.compare_blobs_eq_none_iff.mp hcompare
  obtain ⟨htokens, hblobs⟩ := copies_of_mapM hcopies
  obtain ⟨htokens', hblobs'⟩ := copies_of_mapM hcopies'
  have hboth : ∀ token ∈ blobs.map (·.token), ∃ bytes, model.blob? token = some bytes ∧
      model'.blob? token = some bytes := by
    intro token hmem
    obtain ⟨blob, hblob, rfl⟩ := List.mem_map.mp hmem
    exact ⟨blob.bytes, hblobs blob hblob, hblobs' blob hblob⟩
  rw [Signed, Signed, htokens, htokens']
  refine ⟨fun token hmem => ?_, fun token hmem => ?_, fun token hmem => ?_⟩ <;>
    obtain ⟨bytes, hbytes, hbytes'⟩ := hboth token hmem
  · rw [hbytes]
    rfl
  · rw [hbytes']
    rfl
  · rw [hbytes, hbytes']

/-- Well-formed models list the same in every scenario if and only if all signatures have blobs and the models agree. -/
theorem same_listings_iff (h : model.WellFormed) (h' : model'.WellFormed) (context : Nat) :
    (∀ scenario, Listing.Same context scenario (model.listing scenario) (model'.listing scenario)) ↔
      model.Signed ∧ model'.Signed ∧ model.Agree model' := by
  constructor
  · intro hsame
    obtain ⟨hsigned, hsigned', hblobs⟩ := signed_of_same (hsame .signatureBlobs)
    refine ⟨hsigned, hsigned', ?_⟩
    exact {
      types_eq := h.types_eq h' ((hsame .typeHierarchy).tokens_eq) ((hsame .propertiesEvents).tokens_eq)
      typeRefs_eq := (hsame .typeRefs).tokens_eq
      typeSpecs_eq := (hsame .typeSpecs).tokens_eq
      moduleRefs_eq := (hsame .moduleRefs).tokens_eq
      userStrings_eq := (hsame .userStrings).tokens_eq
      signatures_eq := (hsame .signatures).tokens_eq
      blob_eq := hblobs }
  · rintro ⟨hsigned, -, hagree⟩ scenario
    obtain ⟨listing, hlisting⟩ := exists_listing (hsigned.unresolved?_eq_none scenario)
    exact ⟨listing, listing, hlisting, (hagree.listing_eq scenario).symm.trans hlisting, listing.compare_self⟩

end MetaParity.Model
