import MetaParity.Proofs.Image.Locate
import MetaParity.Proofs.Run.Matching

/-! # Locating by machine words

Metadata is located on a machine whose offsets are words of 64 bits and whose bytes are read one by one. There an addition
may overflow, a subtraction may fall below zero, and a byte may be missing where one is read; each of these is a fault,
which ends the evaluation. No bytes lead to a fault, and what is located is the same as with unbounded offsets. -/

namespace MetaParity.Locate

inductive Fault where
  | overflow
  | outOfBounds
deriving DecidableEq, Inhabited, Repr

/-- An evaluation that refuses bytes or comes to a value, unless a fault ends it. -/
abbrev Machine := ExceptT Malformed (Except Fault)

namespace Machine

/-! ## Arithmetic and reads -/

def fault {α : Type} (fault : Fault) : Machine α :=
  ExceptT.mk (.error fault)

def add (a b : UInt64) : Machine UInt64 :=
  if a.toNat + b.toNat < 0x10000000000000000 then return a + b else fault .overflow

def mul (a b : UInt64) : Machine UInt64 :=
  if a.toNat * b.toNat < 0x10000000000000000 then return a * b else fault .overflow

def sub (a b : UInt32) : Machine UInt32 :=
  if b ≤ a then return a - b else fault .overflow

def checkedAdd (a b : UInt64) : Option UInt64 :=
  if a.toNat + b.toNat < 0x10000000000000000 then some (a + b) else none

def checkedAddShort (a b : UInt32) : Option UInt32 :=
  if a.toNat + b.toNat < 0x100000000 then some (a + b) else none

def size (bytes : Bytes) : UInt64 :=
  .ofNat bytes.length

/-- The bytes between two offsets, if they are in order and none of these bytes is missing. -/
def slice? (bytes : Bytes) (start stop : UInt64) : Option Bytes :=
  if start ≤ stop ∧ stop ≤ size bytes then some ((bytes.drop start.toNat).take (stop - start).toNat) else none

def byte (bytes : Bytes) (index : Nat) : Machine UInt8 :=
  match bytes[index]? with
  | some byte => return byte
  | none => fault .outOfBounds

def word? (bytes : Bytes) (offset : UInt64) : Machine (Option UInt16) :=
  match (checkedAdd offset 2).bind (slice? bytes offset) with
  | none => return none
  | some raw => return some ((← byte raw 0).toUInt16 ||| (← byte raw 1).toUInt16 <<< 8)

def double? (bytes : Bytes) (offset : UInt64) : Machine (Option UInt32) :=
  match (checkedAdd offset 4).bind (slice? bytes offset) with
  | none => return none
  | some raw =>
    return some ((← byte raw 0).toUInt32 ||| (← byte raw 1).toUInt32 <<< 8 ||| (← byte raw 2).toUInt32 <<< 16
      ||| (← byte raw 3).toUInt32 <<< 24)

def ofExcept {α : Type} (result : Except Malformed α) : Machine α :=
  ExceptT.mk (.ok result)

def require {α : Type} (part : String) (word : Machine (Option α)) : Machine α := do
  ofExcept (required part (← word))

/-! ## Locating -/

structure Sections where
  table : UInt64
  count : Nat

def readHeaders (bytes : Bytes) : Machine (Sections × UInt32) := do
  let start := (← require "DOS header" (double? bytes 0x3c)).toUInt64
  if slice? bytes start (← add start 4) ≠ some headerMagic then throw .unknownFormat
  let coff ← add start 4
  let count ← require "COFF header" (word? bytes (← add coff 2))
  let optionalSize ← require "COFF header" (word? bytes (← add coff 16))
  let optional ← add coff 20
  let (countOffset, entriesOffset) ← ofExcept (directoryOffsets (← require "optional header" (word? bytes optional)))
  let countOffset ← add optional (.ofNat countOffset)
  let entries ← add optional (.ofNat entriesOffset)
  let directories ← require "optional header" (double? bytes countOffset)
  if directories.toNat ≤ cliDirectory then throw .noCliHeader
  let cliAddress ← require "data directories" (double? bytes (← add entries (← mul (.ofNat cliDirectory) 8)))
  if cliAddress = 0 then throw .noCliHeader
  return ({ table := ← add optional optionalSize.toUInt64, count := count.toNat }, cliAddress)

def readHeader (bytes : Bytes) (header : UInt64) : Machine SectionHeader := do
  return {
    virtualSize := ← require "section table" (double? bytes (← add header 8))
    virtualAddress := ← require "section table" (double? bytes (← add header 12))
    rawSize := ← require "section table" (double? bytes (← add header 16))
    rawPointer := ← require "section table" (double? bytes (← add header 20)) }

def offsetIn? (header : SectionHeader) (address : UInt32) : Machine (Option UInt64) := do
  if header.virtualAddress ≤ address then
    let distance ← sub address header.virtualAddress
    if distance < max header.virtualSize header.rawSize then
      match checkedAddShort distance header.rawPointer with
      | some offset => return some offset.toUInt64
      | none => throw (.unmappedAddress address)
    else return none
  else return none

/-- The offset of an address, by the first section from an index on that covers it. -/
def offsetFrom (bytes : Bytes) (table : UInt64) (address : UInt32) : (remaining : Nat) → (index : UInt64) → Machine UInt64
  | 0, _ => throw (.unmappedAddress address)
  | remaining + 1, index => do
    let header ← readHeader bytes (← add table (← mul index (.ofNat sectionHeaderSize)))
    match ← offsetIn? header address with
    | some offset => return offset
    | none => offsetFrom bytes table address remaining (← add index 1)

def Sections.offsetOf (sections : Sections) (bytes : Bytes) (address : UInt32) : Machine UInt64 :=
  offsetFrom bytes sections.table address sections.count 0

def inExecutable (bytes : Bytes) : Machine (UInt64 × UInt64) := do
  let (sections, cliAddress) ← readHeaders bytes
  let header ← sections.offsetOf bytes cliAddress
  let address ← require "CLI header" (double? bytes (← add header 8))
  let length ← require "CLI header" (double? bytes (← add header 12))
  let start ← sections.offsetOf bytes address
  let stop ← ofExcept (required "metadata" ((checkedAdd start length.toUInt64).filter (· ≤ size bytes)))
  if (← double? bytes start) ≠ some signature then throw .badSignature
  return (start, stop)

/-- The metadata in bytes, as a machine finds it. -/
def locate (bytes : Bytes) : Machine (ImageKind × UInt64 × UInt64) := do
  if (← double? bytes 0) = some signature then return (.raw, 0, size bytes)
  else if bytes.take 2 = executableMagic then return (.executable, ← inExecutable bytes)
  else throw .unknownFormat

/-! ## Carrying out what is expected -/

def Carries {α β : Type} (Q : α → β → Prop) (machine : Machine α) (expected : Except Malformed β) : Prop :=
  ∃ result, machine.run = .ok result ∧ Alike Q result expected

namespace Carries

variable {α β γ δ : Type} {Q : α → β → Prop} {Q' : γ → δ → Prop}

theorem pure {a : α} {b : β} (h : Q a b) : Carries Q (Pure.pure a) (.ok b) :=
  ⟨.ok a, rfl, .ok h⟩

theorem throw {reason : Malformed} : Carries Q (MonadExcept.throw reason) (.error reason) :=
  ⟨.error reason, rfl, .error reason⟩

theorem bind {machine : Machine α} {expected : Except Malformed β} {f : α → Machine γ} {g : β → Except Malformed δ}
    (h : Carries Q machine expected) (hnext : ∀ a b, Q a b → Carries Q' (f a) (g b)) :
    Carries Q' (machine >>= f) (expected >>= g) := by
  obtain ⟨result, hrun, halike⟩ := h
  cases halike with
  | error reason => exact ⟨.error reason, by rw [ExceptT.run_bind, hrun]; rfl, .error reason⟩
  | @ok a b hab =>
      obtain ⟨result, hresult, halike⟩ := hnext a b hab
      exact ⟨result, by rw [ExceptT.run_bind, hrun]; exact hresult, halike⟩

theorem step {expected : Except Malformed α} {f : α → Machine γ} {g : α → Except Malformed δ}
    (hnext : ∀ a, expected = .ok a → Carries Q' (f a) (g a)) :
    Carries Q' (ofExcept expected >>= f) (expected >>= g) := by
  cases expected with
  | error reason => exact ⟨.error reason, rfl, .error reason⟩
  | ok a => exact hnext a rfl

theorem check {c c' : Prop} [Decidable c] [Decidable c'] {reason : Malformed} {f : Unit → Machine γ}
    {g : Unit → Except Malformed δ} {rest : Machine γ} {rest' : Except Malformed δ} (hc : c ↔ c')
    (hrest : ¬c' → Carries Q' rest rest') :
    Carries Q' (if c then MonadExcept.throw reason >>= f else rest)
      (if c' then MonadExcept.throw reason >>= g else rest') := by
  by_cases h : c'
  · rw [if_pos (hc.mpr h), if_pos h]
    exact throw
  · rw [if_neg (mt hc.mp h), if_neg h]
    exact hrest h

theorem add {a b : UInt64} {f : UInt64 → Machine γ} {expected : Except Malformed δ} (n : Nat) (hb : b.toNat = n)
    (hfits : a.toNat + n < 0x10000000000000000)
    (hnext : ∀ sum : UInt64, sum.toNat = a.toNat + n → Carries Q' (f sum) expected) :
    Carries Q' (Machine.add a b >>= f) expected := by
  subst hb
  rw [Machine.add, if_pos hfits, pure_bind]
  exact hnext _ ((UInt64.toNat_add a b).trans (Nat.mod_eq_of_lt hfits))

theorem mul {a b : UInt64} {f : UInt64 → Machine γ} {expected : Except Malformed δ} (n : Nat) (hb : b.toNat = n)
    (hfits : a.toNat * n < 0x10000000000000000)
    (hnext : ∀ product : UInt64, product.toNat = a.toNat * n → Carries Q' (f product) expected) :
    Carries Q' (Machine.mul a b >>= f) expected := by
  subst hb
  rw [Machine.mul, if_pos hfits, pure_bind]
  exact hnext _ ((UInt64.toNat_mul a b).trans (Nat.mod_eq_of_lt hfits))

end Carries

/-! ## Reads -/

variable {bytes : Bytes}

/-- The bytes are so few that a word counts them, as all bytes in memory are. -/
def Addressable (bytes : Bytes) : Prop :=
  bytes.length < 0x10000000000000000

theorem toNat_size (hbytes : Addressable bytes) : (size bytes).toNat = bytes.length :=
  UInt64.toNat_ofNat_of_lt' hbytes

theorem slice?_eq (hbytes : Addressable bytes) {start stop : UInt64} {count : Nat} (hcount : 0 < count)
    (hstop : stop.toNat = start.toNat + count) :
    slice? bytes start stop =
      if count ≤ (bytes.drop start.toNat).length then some ((bytes.drop start.toNat).take count) else none := by
  have horder : start ≤ stop := UInt64.le_iff_toNat_le.mpr (by omega)
  have hsub : (stop - start).toNat = count := by
    rw [UInt64.toNat_sub_of_le _ _ horder]
    omega
  have hend : stop ≤ size bytes ↔ count ≤ (bytes.drop start.toNat).length := by
    rw [UInt64.le_iff_toNat_le, toNat_size hbytes, hstop, List.length_drop]
    omega
  simp only [slice?, horder, hend, hsub, true_and]

theorem slice?_eq_some_iff (hbytes : Addressable bytes) {start stop : UInt64} {content : Bytes} (hcontent : content ≠ [])
    (hstop : stop.toNat = start.toNat + content.length) :
    slice? bytes start stop = some content ↔ (bytes.drop start.toNat).take content.length = content := by
  rw [slice?_eq hbytes (List.length_pos_iff.mpr hcontent) hstop]
  split
  · exact ⟨Option.some.inj, congrArg some⟩
  · next hshort =>
      refine ⟨fun h => (by cases h), fun h => absurd (congrArg List.length h) ?_⟩
      rw [List.length_take]
      omega

/-- Bytes up to a sum are there if enough of them follow; where the sum does not fit its word, none do. -/
theorem checkedAdd_bind_slice? (hbytes : Addressable bytes) (start : UInt64) {count : UInt64} (hcount : 0 < count.toNat) :
    (checkedAdd start count).bind (slice? bytes start) =
      if count.toNat ≤ (bytes.drop start.toNat).length then some ((bytes.drop start.toNat).take count.toNat)
      else none := by
  rw [checkedAdd]
  split
  · next hfits =>
      exact slice?_eq hbytes hcount ((UInt64.toNat_add _ _).trans (Nat.mod_eq_of_lt hfits))
  · next hfits =>
      have hshort : ¬count.toNat ≤ (bytes.drop start.toNat).length := by
        rw [List.length_drop]
        unfold Addressable at hbytes
        omega
      rw [if_neg hshort]
      rfl

theorem word?_eq (hbytes : Addressable bytes) (offset : UInt64) :
    word? bytes offset = pure (Locate.word? bytes offset.toNat) := by
  rw [word?, checkedAdd_bind_slice? hbytes offset (by decide), Locate.word?]
  rcases bytes.drop offset.toNat with _ | ⟨a, _ | ⟨b, rest⟩⟩
  · rfl
  · rfl
  · rfl

theorem double?_eq (hbytes : Addressable bytes) (offset : UInt64) :
    double? bytes offset = pure (Locate.double? bytes offset.toNat) := by
  rw [double?, checkedAdd_bind_slice? hbytes offset (by decide), Locate.double?]
  rcases bytes.drop offset.toNat with _ | ⟨a, _ | ⟨b, _ | ⟨c, _ | ⟨d, rest⟩⟩⟩⟩
  · rfl
  · rfl
  · rfl
  · rfl
  · rfl

namespace Carries

variable {γ δ : Type} {Q : γ → δ → Prop} {part : String} {offset : UInt64} {place : Nat}

theorem word (hbytes : Addressable bytes) {f : UInt16 → Machine γ} {g : UInt16 → Except Malformed δ}
    (hplace : offset.toNat = place) (hnext : ∀ word, Carries Q (f word) (g word)) :
    Carries Q (require part (Machine.word? bytes offset) >>= f)
      (required part (Locate.word? bytes place) >>= g) := by
  rw [require, word?_eq hbytes, pure_bind, hplace]
  exact step fun word _ => hnext word

theorem double (hbytes : Addressable bytes) {f : UInt32 → Machine γ} {g : UInt32 → Except Malformed δ}
    (hplace : offset.toNat = place) (hnext : ∀ double, Carries Q (f double) (g double)) :
    Carries Q (require part (Machine.double? bytes offset) >>= f)
      (required part (Locate.double? bytes place) >>= g) := by
  rw [require, double?_eq hbytes, pure_bind, hplace]
  exact step fun double _ => hnext double

end Carries

/-! ## Headers -/

/-- The sections that a machine reads are those of a layout, and their table is far from the last offset. -/
structure Sections.Of (sections : Sections) (layout : Layout) : Prop where
  table : sections.table.toNat = layout.sectionTable
  table_lt : sections.table.toNat < 0x200000000
  count : sections.count = layout.sectionCount
  count_lt : sections.count < 0x10000

theorem toNat_directoryOffsets {magic : UInt16} {offsets : Nat × Nat} (h : directoryOffsets magic = .ok offsets) :
    (UInt64.ofNat offsets.1).toNat = offsets.1 ∧ (UInt64.ofNat offsets.2).toNat = offsets.2 ∧
      offsets.1 < 0x100 ∧ offsets.2 < 0x100 := by
  unfold directoryOffsets at h
  split at h
  · cases h
    decide
  · split at h
    · cases h
      decide
    · cases h

theorem carries_readHeaders (hbytes : Addressable bytes) :
    Carries (fun found layout => found.1.Of layout ∧ found.2 = layout.cliAddress) (readHeaders bytes)
      (Layout.read bytes) := by
  unfold readHeaders Layout.read
  refine .double hbytes rfl fun start => ?_
  have hstart := start.toNat_lt
  have hstart_eq := start.toNat_toUInt64
  refine .add 4 rfl (by omega) fun four hfour => .check ?_ fun _ => ?_
  · exact not_congr (slice?_eq_some_iff hbytes (List.cons_ne_nil _ _) hfour)
  refine .add 4 rfl (by omega) fun coff hcoff => ?_
  refine .add 2 rfl (by omega) fun _ hcount => .word hbytes (by omega) fun count => ?_
  refine .add 16 rfl (by omega) fun _ hsize => .word hbytes (by omega) fun optionalSize => ?_
  refine .add 20 rfl (by omega) fun optional hoptional => .word hbytes (by omega) fun magic => ?_
  refine .step fun offsets hoffsets => ?_
  obtain ⟨hcountOffset, hentriesOffset, hcount_lt, hentries_lt⟩ := toNat_directoryOffsets hoffsets
  refine .add _ hcountOffset (by omega) fun _ hcounted => .add _ hentriesOffset (by omega) fun entries hentries => ?_
  refine .double hbytes (by omega) fun directories => .check Iff.rfl fun _ => ?_
  refine .mul 8 rfl (by decide) fun skipped hskipped => ?_
  have hentry : skipped.toNat = 8 * cliDirectory := hskipped
  have hcliDirectory : 8 * cliDirectory = 112 := rfl
  refine .add _ hentry (by omega) fun _ hcli => .double hbytes (by omega) fun cliAddress => .check Iff.rfl fun _ => ?_
  have hsize_lt := optionalSize.toNat_lt
  refine .add _ optionalSize.toNat_toUInt64 (by omega) fun table htable => ?_
  have htable_eq : table.toNat = start.toNat + 24 + optionalSize.toNat := by omega
  have htable_lt : table.toNat < 0x200000000 := by omega
  exact .pure ⟨⟨htable_eq, htable_lt, rfl, count.toNat_lt⟩, rfl⟩

/-! ## Sections -/

theorem double?_drop (skipped offset : Nat) :
    Locate.double? (bytes.drop skipped) offset = Locate.double? bytes (skipped + offset) := by
  rw [Locate.double?, List.drop_drop, Locate.double?]

theorem required_read? (header : Nat) (part : String) :
    required part (SectionHeader.read? (bytes.drop header)) = (do
      let virtualSize ← required part (Locate.double? bytes (header + 8))
      let virtualAddress ← required part (Locate.double? bytes (header + 12))
      let rawSize ← required part (Locate.double? bytes (header + 16))
      let rawPointer ← required part (Locate.double? bytes (header + 20))
      return { virtualSize, virtualAddress, rawSize, rawPointer }) := by
  simp only [SectionHeader.read?, double?_drop]
  cases Locate.double? bytes (header + 8) with
  | none => rfl
  | some virtualSize =>
  cases Locate.double? bytes (header + 12) with
  | none => rfl
  | some virtualAddress =>
  cases Locate.double? bytes (header + 16) with
  | none => rfl
  | some rawSize => cases Locate.double? bytes (header + 20) <;> rfl

theorem carries_readHeader (hbytes : Addressable bytes) {header : UInt64} (hheader : header.toNat < 0x300000000) :
    Carries Eq (readHeader bytes header)
      (required "section table" (SectionHeader.read? (bytes.drop header.toNat))) := by
  rw [required_read?]
  refine .add 8 rfl (by omega) fun _ hvirtualSize => .double hbytes hvirtualSize fun _ => ?_
  refine .add 12 rfl (by omega) fun _ hvirtualAddress => .double hbytes hvirtualAddress fun _ => ?_
  refine .add 16 rfl (by omega) fun _ hrawSize => .double hbytes hrawSize fun _ => ?_
  exact .add 20 rfl (by omega) fun _ hrawPointer => .double hbytes hrawPointer fun _ => .pure rfl

variable {header : SectionHeader} {address : UInt32}

theorem toNat_max (header : SectionHeader) : (max header.virtualSize header.rawSize).toNat = header.reach := by
  rw [SectionHeader.reach, UInt32.toNat_max]

/-- In a section that covers the address the difference does not fall below zero. -/
theorem offsetIn?_of_covers (h : header.covers address) :
    offsetIn? header address =
      if header.offset address < 0x100000000 then pure (some (.ofNat (header.offset address)))
      else throw (.unmappedAddress address) := by
  obtain ⟨hle, hlt⟩ : header.virtualAddress ≤ address ∧ address.toNat - header.virtualAddress.toNat < header.reach := by
    simpa [SectionHeader.covers] using h
  have hdistance : (address - header.virtualAddress).toNat = address.toNat - header.virtualAddress.toNat :=
    UInt32.toNat_sub_of_le _ _ hle
  have hreach : address - header.virtualAddress < max header.virtualSize header.rawSize := by
    rw [UInt32.lt_iff_toNat_lt, toNat_max, hdistance]
    exact hlt
  have hoffset : (address - header.virtualAddress).toNat + header.rawPointer.toNat = header.offset address := by
    rw [hdistance, SectionHeader.offset]
  rw [offsetIn?, if_pos hle, sub, if_pos hle, pure_bind, if_pos hreach, checkedAddShort, hoffset]
  by_cases hfits : header.offset address < 0x100000000
  · have hsum : (address - header.virtualAddress + header.rawPointer).toNat = header.offset address := by
      rw [UInt32.toNat_add, hoffset]
      exact Nat.mod_eq_of_lt hfits
    rw [if_pos hfits, if_pos hfits, ← hsum, UInt64.ofNat_uInt32ToNat]
  · rw [if_neg hfits, if_neg hfits]

theorem offsetIn?_of_not_covers (h : header.covers address = false) : offsetIn? header address = pure none := by
  by_cases hle : header.virtualAddress ≤ address
  · have hdistance : (address - header.virtualAddress).toNat = address.toNat - header.virtualAddress.toNat :=
      UInt32.toNat_sub_of_le _ _ hle
    have hreach : ¬address - header.virtualAddress < max header.virtualSize header.rawSize := by
      rw [UInt32.lt_iff_toNat_lt, toNat_max, hdistance]
      simpa [SectionHeader.covers, hle] using h
    rw [offsetIn?, if_pos hle, sub, if_pos hle, pure_bind, if_neg hreach]
  · rw [offsetIn?, if_neg hle]

theorem carries_offsetFrom (hbytes : Addressable bytes) (address : UInt32) {table : UInt64} (htable : table.toNat < 0x200000000)
    {remaining : Nat} {index : UInt64} (hindex : index.toNat + remaining < 0x10000) :
    Carries (fun offset place => offset.toNat = place ∧ place < 0x100000000)
      (offsetFrom bytes table address remaining index)
      (Locate.offsetOf address remaining (bytes.drop (table.toNat + index.toNat * sectionHeaderSize))) := by
  induction remaining generalizing index with
  | zero => exact .throw
  | succ remaining ih =>
      rw [offsetFrom, Locate.offsetOf]
      -- The table is far from the last offset and has few entries, so the offset of each fits its word.
      refine .mul 40 rfl (by omega) fun skipped hskipped => .add _ hskipped (by omega) fun place hplace => ?_
      rw [show table.toNat + index.toNat * sectionHeaderSize = place.toNat from hplace.symm]
      refine .bind (carries_readHeader hbytes (by omega)) ?_
      rintro header _ rfl
      cases hcovers : header.covers address with
      | true =>
          rw [offsetIn?_of_covers hcovers, if_pos rfl]
          split_ifs with hfits
          · rw [pure_bind]
            exact .pure ⟨UInt64.toNat_ofNat_of_lt' (hfits.trans (by decide)), hfits⟩
          · exact .throw
      | false =>
          rw [offsetIn?_of_not_covers hcovers, pure_bind, List.drop_drop]
          refine .add 1 rfl (by omega) fun next hnext => ?_
          rw [hplace, show table.toNat + index.toNat * 40 + sectionHeaderSize = table.toNat + next.toNat * sectionHeaderSize
            by unfold sectionHeaderSize; omega]
          exact ih (by omega)

/-! ## Located metadata -/

theorem carries_offsetOf (hbytes : Addressable bytes) {sections : Sections} {layout : Layout} (h : sections.Of layout)
    (address : UInt32) :
    Carries (fun offset place => offset.toNat = place ∧ place < 0x100000000) (sections.offsetOf bytes address)
      (layout.offsetOf bytes address) := by
  have hindex : (0 : UInt64).toNat + sections.count < 0x10000 := by
    rw [UInt64.toNat_zero, Nat.zero_add]
    exact h.count_lt
  have hfrom := carries_offsetFrom hbytes address h.table_lt hindex
  rw [UInt64.toNat_zero, Nat.zero_mul, Nat.add_zero, h.table] at hfrom
  rw [Layout.offsetOf, ← h.count]
  exact hfrom

def Spans (range : UInt64 × UInt64) (extent : Extent) : Prop :=
  range.1.toNat = extent.start ∧ range.2.toNat = extent.stop

theorem carries_stop (hbytes : Addressable bytes) {start : UInt64} (hstart : start.toNat < 0x100000000) (length : UInt32)
    {γ δ : Type} {Q : γ → δ → Prop} {part : String} {f : UInt64 → Machine γ} {g : Unit → Except Malformed δ}
    {rest : Except Malformed δ}
    (hnext : ∀ stop : UInt64, stop.toNat = start.toNat + length.toNat → Carries Q (f stop) rest) :
    Carries Q (ofExcept (required part ((checkedAdd start length.toUInt64).filter (· ≤ size bytes))) >>= f)
      (if bytes.length < start.toNat + length.toNat then throw (.truncated part) >>= g else rest) := by
  have hlength := length.toNat_lt
  have hfits : start.toNat + length.toUInt64.toNat < 0x10000000000000000 := by
    rw [UInt32.toNat_toUInt64]
    omega
  have hsum : (start + length.toUInt64).toNat = start.toNat + length.toNat :=
    (UInt64.toNat_add _ _).trans (Nat.mod_eq_of_lt hfits)
  have hle : start + length.toUInt64 ≤ size bytes ↔ ¬bytes.length < start.toNat + length.toNat := by
    rw [UInt64.le_iff_toNat_le, hsum, toNat_size hbytes, not_lt]
  simp only [checkedAdd, if_pos hfits, Option.filter_some, decide_eq_true_eq, hle]
  by_cases hshort : bytes.length < start.toNat + length.toNat
  · rw [if_neg (not_not.mpr hshort), if_pos hshort]
    exact .throw
  · rw [if_pos hshort, if_neg hshort]
    exact hnext _ hsum

theorem carries_inExecutable (hbytes : Addressable bytes) :
    Carries Spans (inExecutable bytes) (Locate.inExecutable bytes) := by
  refine .bind (carries_readHeaders hbytes) ?_
  rintro ⟨sections, _⟩ layout ⟨hsections, rfl⟩
  refine .bind (carries_offsetOf hbytes hsections _) ?_
  rintro header _ ⟨rfl, hheader⟩
  refine .add 8 rfl (by omega) fun _ haddress => .double hbytes haddress fun address => ?_
  refine .add 12 rfl (by omega) fun _ hlength => .double hbytes hlength fun length => ?_
  refine .bind (carries_offsetOf hbytes hsections address) ?_
  rintro start _ ⟨rfl, hstart⟩
  refine carries_stop hbytes hstart length fun stop hstop => ?_
  rw [double?_eq hbytes, pure_bind]
  exact .check Iff.rfl fun _ => .pure ⟨rfl, hstop⟩

theorem carries_locate (hbytes : Addressable bytes) :
    Carries (fun found expected => found.1 = expected.1 ∧ Spans found.2 expected.2) (locate bytes)
      (MetaParity.locate bytes) := by
  rw [locate, MetaParity.locate, double?_eq hbytes, pure_bind, UInt64.toNat_zero]
  split_ifs with hraw hexecutable
  · exact .pure ⟨rfl, rfl, toNat_size hbytes⟩
  · change Carries _ _ (Functor.map _ _)
    rw [map_eq_pure_bind]
    exact .bind (carries_inExecutable hbytes) fun _ _ h => .pure ⟨rfl, h⟩
  · exact .throw

end Machine

end MetaParity.Locate
