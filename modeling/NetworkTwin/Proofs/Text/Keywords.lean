import NetworkTwin.Proofs.Text.Words
import NetworkTwin.Text.LetterCase

/-!
Keywords in any case of their letters. Folding never turns a blank into a letter, so a word that is a
keyword has as many characters as the keyword, each of them a letter of ASCII or the long s. On such
words the full mapping to lower case changes letters of ASCII only, and it leaves them the keyword
that they are.
-/

namespace NetworkTwin.Text

/-- A word is a keyword in any case of its letters. -/
def Spells (word keyword : String) : Prop := foldsTo word.toList keyword = true

instance (word keyword : String) : Decidable (Spells word keyword) :=
  inferInstanceAs (Decidable (foldsTo word.toList keyword = true))

theorem spells_iff {word keyword : String} :
    Spells word keyword ↔ word.toList.map foldLetter = keyword.toList :=
  beq_iff_eq

theorem spells_unique {word first second : String} (spellsFirst : Spells word first)
    (spellsSecond : Spells word second) : first = second :=
  String.toList_inj.1 ((spells_iff.1 spellsFirst).symm.trans (spells_iff.1 spellsSecond))

theorem lower_ascii_eq_self {c : Char} (notCapital : c.toNat < 65 ∨ 90 < c.toNat) :
    lowerAscii c = c := by
  have outside : ('A' ≤ c && c ≤ 'Z') = false := by
    by_contra capital
    rw [Bool.not_eq_false, Bool.and_eq_true, decide_eq_true_iff, decide_eq_true_iff] at capital
    have least : 65 ≤ c.toNat := capital.1
    have greatest : c.toNat ≤ 90 := capital.2
    omega
  rw [lowerAscii, outside]
  rfl

theorem fold_letter_blank {c : Char} (blank : isBlank c = true) : foldLetter c = c := by
  have notLongS : c ≠ 'ſ' := by
    rintro rfl
    revert blank
    decide
  simp only [isBlank, Bool.or_eq_true, Bool.and_eq_true, decide_eq_true_iff, beq_iff_eq] at blank
  rw [foldLetter, if_neg notLongS, lower_ascii_eq_self (by omega)]

theorem fold_letter_ne {c letter : Char} (blank : isBlank c = true)
    (solid : isBlank letter = false) : foldLetter c ≠ letter := by
  rw [fold_letter_blank blank]
  rintro rfl
  rw [solid] at blank
  cases blank

theorem is_word_of_spells {word keyword : String} (spells : Spells word keyword)
    (isWord : IsWord keyword.toList) : IsWord word.toList := by
  rw [← spells_iff.1 spells] at isWord
  constructor
  · exact fun empty => isWord.nonempty (by rw [empty]; rfl)
  · intro c member
    cases blank : isBlank c with
    | false => rfl
    | true =>
        have folded := isWord.letters (foldLetter c) (List.mem_map_of_mem member)
        rw [fold_letter_blank blank, blank] at folded
        exact folded

theorem lower_ascii_of_spells_plainly {word keyword : String} (spells : Spells word keyword)
    (plain : 'ſ' ∉ word.toList) : word.toList.map lowerAscii = keyword.toList := by
  rw [← spells_iff.1 spells]
  apply List.map_congr_left
  intro c member
  have different : c ≠ 'ſ' := by
    intro same
    exact plain (same ▸ member)
  rw [foldLetter, if_neg different]

theorem s_mem_of_long_s {word keyword : String} (spells : Spells word keyword)
    (longS : 'ſ' ∈ word.toList) : 's' ∈ keyword.toList := by
  rw [← spells_iff.1 spells]
  exact List.mem_map_of_mem longS

theorem lower_ascii_of_spells {word keyword : String} (spells : Spells word keyword)
    (withoutS : 's' ∉ keyword.toList) : word.toList.map lowerAscii = keyword.toList := by
  apply lower_ascii_of_spells_plainly spells
  intro longS
  exact withoutS (s_mem_of_long_s spells longS)

/-- The characters that a keyword can be spelled with: those of ASCII and the long s. -/
def IsKeywordCharacter (c : Char) : Prop := c.toNat < 128 ∨ c = 'ſ'

theorem lower_letter_ascii :
    ∀ code < 128, lowerLetter (Char.ofNat code) = [lowerAscii (Char.ofNat code)] := by
  decide +kernel

theorem lower_letter_eq {c : Char} (isKeyword : IsKeywordCharacter c) :
    lowerLetter c = [lowerAscii c] := by
  rcases isKeyword with ascii | rfl
  · have lowered := lower_letter_ascii c.toNat ascii
    rwa [Char.ofNat_toNat] at lowered
  · decide +kernel

theorem lower_after_eq (before : List Char) {text : List Char}
    (isKeyword : ∀ c ∈ text, IsKeywordCharacter c) :
    lowerAfter before text = text.map lowerAscii := by
  induction text generalizing before with
  | nil => rfl
  | cons c rest induction =>
      have here := isKeyword c List.mem_cons_self
      have later := induction (c :: before) fun other member =>
        isKeyword other (List.mem_cons_of_mem c member)
      have notSigma : c ≠ 'Σ' := by
        rintro rfl
        revert here
        unfold IsKeywordCharacter
        decide
      rw [lowerAfter, if_neg notSigma, lower_letter_eq here, later]
      rfl

theorem lower_ascii_small :
    ∀ code < 128, foldLetter (lowerAscii (Char.ofNat code)) = foldLetter (Char.ofNat code) ∧
      lowerAscii (lowerAscii (Char.ofNat code)) = lowerAscii (Char.ofNat code) := by
  decide +kernel

theorem lower_ascii_stable (c : Char) :
    foldLetter (lowerAscii c) = foldLetter c ∧ lowerAscii (lowerAscii c) = lowerAscii c := by
  rcases Nat.lt_or_ge c.toNat 128 with small | large
  · have stable := lower_ascii_small c.toNat small
    rwa [Char.ofNat_toNat] at stable
  · rw [lower_ascii_eq_self (by omega)]
    exact ⟨rfl, lower_ascii_eq_self (by omega)⟩

theorem lower_ascii_text_twice (word : String) :
    lowerAsciiText (lowerAsciiText word) = lowerAsciiText word := by
  rw [lowerAsciiText, lowerAsciiText, String.toList_ofList, List.map_map]
  apply congrArg String.ofList
  apply List.map_congr_left
  intro c _
  exact (lower_ascii_stable c).2

theorem same_ignoring_case_lowered (word : String) :
    sameIgnoringCase (lowerAsciiText word) word = true :=
  same_ignoring_case_iff.2 (lower_ascii_text_twice word)

theorem keyword_character_of_fold {c letter : Char} (folded : foldLetter c = letter)
    (ascii : letter.toNat < 128) : IsKeywordCharacter c := by
  by_cases longS : c = 'ſ'
  · exact Or.inr longS
  · rcases Nat.lt_or_ge c.toNat 128 with small | large
    · exact Or.inl small
    · rw [foldLetter, if_neg longS, lower_ascii_eq_self (by omega)] at folded
      exact Or.inl (folded ▸ ascii)

theorem to_lower_of_spells {word keyword : String} (spells : Spells word keyword)
    (ascii : ∀ letter ∈ keyword.toList, letter.toNat < 128) :
    toLower word = lowerAsciiText word := by
  have characters : ∀ c ∈ word.toList, IsKeywordCharacter c := by
    intro c member
    have inKeyword : foldLetter c ∈ keyword.toList := by
      rw [← spells_iff.1 spells]
      exact List.mem_map_of_mem member
    exact keyword_character_of_fold rfl (ascii _ inKeyword)
  rw [toLower, lower_after_eq [] characters, lowerAsciiText]

theorem to_lower_spells {word keyword : String} (spells : Spells word keyword)
    (ascii : ∀ letter ∈ keyword.toList, letter.toNat < 128) :
    Spells (toLower word) keyword ∧ toLower (toLower word) = toLower word := by
  have lowered := to_lower_of_spells spells ascii
  have same : Spells (lowerAsciiText word) keyword := by
    rw [spells_iff, lowerAsciiText, String.toList_ofList, List.map_map, ← spells_iff.1 spells]
    exact List.map_congr_left fun c _ => (lower_ascii_stable c).1
  rw [lowered, to_lower_of_spells same ascii, lower_ascii_text_twice]
  exact ⟨same, rfl⟩

end NetworkTwin.Text
