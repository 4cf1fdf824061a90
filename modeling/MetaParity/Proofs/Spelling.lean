import MetaParity.Scenario
import MetaParity.Proofs.Text.Lowercase
import Mathlib.Data.List.Forall2
import Mathlib.Data.List.TakeWhile

/-! # Spellings of scenario names

A spelling is read by bringing it to the form of the names. What that accepts is said here character by character:
letters in either case, hyphens for underscores, the Kelvin sign for a `k`, and blanks around it all. -/

namespace MetaParity

namespace Text

/-! ## Blanks at the ends -/

variable {before body after : List Char}

theorem exists_append_trimBlanks (cs : List Char) :
    ∃ before after, cs = before ++ trimBlanks cs ++ after ∧ ∀ c ∈ before ++ after, isBlank c := by
  let rest := cs.dropWhile isBlank
  refine ⟨cs.takeWhile isBlank, (rest.reverse.takeWhile isBlank).reverse, ?_, fun c hc => ?_⟩
  · have hrest : (rest.reverse.dropWhile isBlank).reverse ++ (rest.reverse.takeWhile isBlank).reverse = rest := by
      rw [← List.reverse_append, List.takeWhile_append_dropWhile, List.reverse_reverse]
    rw [List.append_assoc, trimBlanks, hrest, List.takeWhile_append_dropWhile]
  · rcases List.mem_append.mp hc with hc | hc
    · exact List.mem_takeWhile_imp hc
    · exact List.mem_takeWhile_imp (List.mem_reverse.mp hc)

/-- Blanks around characters that are none are trimmed off, and nothing else is. -/
theorem trimBlanks_append (hblank : ∀ c ∈ before ++ after, isBlank c) (hbody : ∀ c ∈ body, isBlank c = false) :
    trimBlanks (before ++ body ++ after) = body := by
  obtain ⟨hbefore, hafter⟩ := List.forall_mem_append.mp hblank
  have hafter' : ∀ c ∈ after.reverse, isBlank c := fun c hc => hafter c (List.mem_reverse.mp hc)
  rw [trimBlanks, List.append_assoc, List.dropWhile_append_of_pos hbefore]
  cases body with
  | nil =>
      rw [List.nil_append, List.dropWhile_eq_nil_iff.mpr hafter]
      rfl
  | cons c body =>
      have hfirst : isBlank c = false := hbody c List.mem_cons_self
      have hlast : (c :: body).reverse.dropWhile isBlank = (c :: body).reverse :=
        List.dropWhile_eq_self_iff.mpr fun hl =>
          ne_true_of_eq_false (hbody _ (List.mem_reverse.mp (List.getElem_mem hl)))
      rw [List.cons_append, List.dropWhile_cons_of_neg (ne_true_of_eq_false hfirst), ← List.cons_append,
        List.reverse_append, List.dropWhile_append_of_pos hafter', hlast, List.reverse_reverse]

end Text

namespace Scenario

open Text

/-! ## Letters -/

/-- A character spells a letter of a name: it is the letter in either case, a hyphen where the name has an underscore, or
the Kelvin sign where the name has a `k`. -/
def Spells (c letter : Char) : Prop :=
  c = letter ∨ c = letter.toUpper ∨ letter = '_' ∧ c = '-' ∨ letter = 'k' ∧ c = '\u212a'

instance (c letter : Char) : Decidable (Spells c letter) :=
  inferInstanceAs (Decidable (c = letter ∨ c = letter.toUpper ∨ letter = '_' ∧ c = '-' ∨ letter = 'k' ∧ c = '\u212a'))

def nameLetters : List Char :=
  plainCharacters.erase '-'

theorem mem_nameLetters (scenario : Scenario) : ∀ letter ∈ scenario.name.toList, letter ∈ nameLetters := by
  cases scenario <;> exact List.all_iff_forall_prop.mp (by decide +kernel)

theorem isBlank_nameLetters : ∀ letter ∈ nameLetters, isBlank letter = false ∧ isBlank letter.toUpper = false :=
  List.all_iff_forall_prop.mp (by decide)

/-- The character of a name that stands for a character: an underscore for a hyphen. -/
def canonical (c : Char) : Char :=
  if c = '-' then '_' else c

section

variable {c letter : Char} (hletter : letter ∈ nameLetters)
include hletter

theorem canonical_eq_iff {plain : Char} : canonical plain = letter ↔ plain = letter ∨ plain = '-' ∧ letter = '_' := by
  have hhyphen : letter ≠ '-' := ((List.Nodup.mem_erase_iff (by decide)).mp hletter).1
  unfold canonical
  by_cases hplain : plain = '-'
  · subst hplain
    simp [hhyphen.symm, eq_comm]
  · simp [hplain]

/-- Within any text, what spells a letter is exactly what is brought to its form. -/
theorem map_lowerWithin_eq_iff (before after : List Char) :
    (lowerWithin before c after).map canonical = [letter] ↔ Spells c letter := by
  have hplain : letter ∈ plainCharacters := List.mem_of_mem_erase hletter
  have hhyphen : '-' ∈ plainCharacters := by decide
  simp only [List.map_eq_singleton_iff, canonical_eq_iff hletter]
  constructor
  · rintro ⟨plain, hlower, rfl | ⟨rfl, rfl⟩⟩
    · rcases (lowerWithin_eq_iff hplain).mp hlower with h | h | ⟨h, h'⟩
      · exact .inl h
      · exact .inr (.inl h)
      · exact .inr (.inr (.inr ⟨h', h⟩))
    · rcases (lowerWithin_eq_iff hhyphen).mp hlower with h | h | ⟨-, h⟩
      · exact .inr (.inr (.inl ⟨rfl, h⟩))
      · exact .inr (.inr (.inl ⟨rfl, h⟩))
      · cases h
  · rintro (h | h | ⟨rfl, rfl⟩ | ⟨h, h'⟩)
    · exact ⟨letter, (lowerWithin_eq_iff hplain).mpr (.inl h), .inl rfl⟩
    · exact ⟨letter, (lowerWithin_eq_iff hplain).mpr (.inr (.inl h)), .inl rfl⟩
    · exact ⟨'-', (lowerWithin_eq_iff hhyphen).mpr (.inl rfl), .inr ⟨rfl, rfl⟩⟩
    · exact ⟨letter, (lowerWithin_eq_iff hplain).mpr (.inr (.inr ⟨h', h⟩)), .inl rfl⟩

theorem isBlank_of_spells (h : Spells c letter) : isBlank c = false := by
  obtain ⟨hsmall, hcapital⟩ := isBlank_nameLetters letter hletter
  rcases h with rfl | rfl | ⟨-, rfl⟩ | ⟨-, rfl⟩
  · exact hsmall
  · exact hcapital
  · decide
  · decide

end

/-! ## Words -/

/-- A text is brought to a name exactly when its characters spell the letters, one for one. -/
theorem map_lowerAfter_eq_iff {before cs name : List Char} (hname : ∀ letter ∈ name, letter ∈ nameLetters) :
    (lowerAfter before cs).map canonical = name ↔ List.Forall₂ Spells cs name := by
  induction cs generalizing before name with
  | nil => simp [lowerAfter, eq_comm]
  | cons c cs ih =>
      rw [lowerAfter, List.map_append]
      cases name with
      | nil =>
          rcases exists_lowerWithin before c cs with ⟨lower, hlower⟩ | hlower
          · simp [hlower]
          · simp [hlower]
      | cons letter name =>
          obtain ⟨hletter, hrest⟩ := List.forall_mem_cons.mp hname
          rw [List.forall₂_cons, ← @ih (c :: before) name hrest, ← map_lowerWithin_eq_iff hletter before cs]
          rcases exists_lowerWithin before c cs with ⟨lower, hlower⟩ | hlower
          · simp [hlower]
          · -- The dot that is left of the capital is no letter of a name.
            have hdot : '\u0307' ∉ name := fun hmem => absurd (hrest _ hmem) (by decide)
            rw [hlower]
            constructor
            · intro h
              obtain ⟨-, h⟩ := List.cons.inj h
              exact absurd (h ▸ List.mem_cons_self) hdot
            · rintro ⟨h, -⟩
              cases h

theorem isBlank_of_forall₂ {body name : List Char} (hname : ∀ letter ∈ name, letter ∈ nameLetters)
    (h : List.Forall₂ Spells body name) : ∀ c ∈ body, isBlank c = false := by
  induction h with
  | nil => exact fun _ hmem => (by cases hmem)
  | cons hspells _ ih =>
      obtain ⟨hletter, hrest⟩ := List.forall_mem_cons.mp hname
      exact List.forall_mem_cons.mpr ⟨isBlank_of_spells hletter hspells, ih hrest⟩

/-! ## Names -/

/-- A text is a spelling of the name of a scenario: blanks around characters that spell its letters, one for one. -/
def SpelledBy (scenario : Scenario) (spelling : String) : Prop :=
  ∃ before body after, spelling.toList = before ++ body ++ after ∧ (∀ c ∈ before ++ after, isBlank c) ∧
    List.Forall₂ Spells body scenario.name.toList

theorem ofName?_eq_some_iff {name : String} {scenario : Scenario} :
    ofName? name = some scenario ↔ scenario.name = name := by
  constructor
  · intro h
    simpa using List.find?_some h
  · rintro rfl
    cases scenario <;> decide +kernel

theorem name_eq_normalized_iff {scenario : Scenario} {spelling : String} :
    scenario.name = normalized spelling ↔ scenario.SpelledBy spelling := by
  have hnormalized : scenario.name = normalized spelling ↔
      List.Forall₂ Spells (trimBlanks spelling.toList) scenario.name.toList := by
    rw [← String.toList_inj, normalized, String.toList_ofList, eq_comm]
    exact map_lowerAfter_eq_iff scenario.mem_nameLetters
  rw [hnormalized]
  constructor
  · intro h
    obtain ⟨before, after, htext, hblank⟩ := exists_append_trimBlanks spelling.toList
    exact ⟨before, _, after, htext, hblank, h⟩
  · rintro ⟨before, body, after, htext, hblank, h⟩
    rwa [htext, trimBlanks_append hblank (isBlank_of_forall₂ scenario.mem_nameLetters h)]

/-- A text is read as a scenario if and only if it is a spelling of its name, and every other text is refused as it
stands. -/
theorem parse_spellings (spelling : String) :
    (∀ scenario, parse spelling = .ok scenario ↔ scenario.SpelledBy spelling) ∧
    (∀ unknown, parse spelling = .error unknown ↔
      unknown.text = spelling ∧ ∀ scenario : Scenario, ¬scenario.SpelledBy spelling) ∧
    ∀ scenario other : Scenario, scenario.SpelledBy spelling → other.SpelledBy spelling → scenario = other := by
  have hok : ∀ scenario, parse spelling = .ok scenario ↔ scenario.SpelledBy spelling := by
    intro scenario
    rw [← name_eq_normalized_iff, ← ofName?_eq_some_iff, parse]
    cases ofName? (normalized spelling) with
    | none => simp
    | some found => simp
  refine ⟨hok, fun unknown => ?_, fun scenario other h h' => ?_⟩
  · simp only [← hok]
    unfold parse
    cases ofName? (normalized spelling) with
    | none =>
        have hunknown : (⟨spelling⟩ : UnknownScenario) = unknown ↔ unknown.text = spelling := by
          rw [eq_comm, UnknownScenario.mk.injEq]
        simp [hunknown]
    | some found => simp
  · rw [← hok] at h h'
    exact Except.ok.inj (h.symm.trans h')

/-- Capitals, a hyphen, a Kelvin sign and blanks of other scripts at both ends; a blank in place of an underscore. -/
theorem parse_spellings_kelvin :
    let spelling := "\u3000\tSig-FROM_to\u212aen\u2003"
    sigFromToken.SpelledBy spelling ∧ parse spelling = .ok sigFromToken ∧ ¬resetEnum.SpelledBy spelling ∧
      parse "reset enum" = .error ⟨"reset enum"⟩ ∧ ∀ scenario : Scenario, ¬scenario.SpelledBy "reset enum" := by
  intro spelling
  have hspelled : sigFromToken.SpelledBy spelling :=
    ⟨['\u3000', '\t'], "Sig-FROM_to\u212aen".toList, ['\u2003'], by decide +kernel,
      List.all_iff_forall_prop.mp (by decide), by decide +kernel⟩
  have hunknown : parse "reset enum" = .error ⟨"reset enum"⟩ := by decide +kernel
  obtain ⟨hok, -, hunique⟩ := parse_spellings spelling
  obtain ⟨-, herror, -⟩ := parse_spellings "reset enum"
  refine ⟨hspelled, (hok sigFromToken).mpr hspelled, fun h => ?_, hunknown, ((herror _).mp hunknown).2⟩
  cases hunique _ _ h hspelled

end Scenario

end MetaParity
