import Mathlib.Data.List.TakeWhile
import NetworkTwin.Text.Blank

/-!
The words of a text. A blank cuts a text in two, and the words of the text are those of its two
parts: everything else about words comes down to this. Blanks around a text belong to no word, and
words that are written with blanks between them are read back.
-/

namespace NetworkTwin.Text

theorem is_blank_of_digit {c : Char} (digit : c.isDigit = true) : isBlank c = false := by
  rw [Char.isDigit, Bool.and_eq_true, decide_eq_true_iff, decide_eq_true_iff] at digit
  have least : 48 ≤ c.toNat := digit.1
  have greatest : c.toNat ≤ 57 := digit.2
  cases blank : isBlank c with
  | false => rfl
  | true =>
      simp only [isBlank, Bool.or_eq_true, Bool.and_eq_true, decide_eq_true_iff,
        beq_iff_eq] at blank
      omega

/-- At least one character, and no blank. -/
structure IsWord (word : List Char) : Prop where
  nonempty : word ≠ []
  letters : ∀ c ∈ word, isBlank c = false

theorem is_word_character_iff {c : Char} : isWordCharacter c = true ↔ isBlank c = false := by
  simp [isWordCharacter]

theorem is_word_iff {word : List Char} :
    word ≠ [] ∧ word.all isWordCharacter = true ↔ IsWord word := by
  constructor
  · rintro ⟨nonempty, letters⟩
    exact ⟨nonempty, fun c member => is_word_character_iff.1 (List.all_eq_true.1 letters c member)⟩
  · rintro ⟨nonempty, letters⟩
    exact ⟨nonempty, List.all_eq_true.2 fun c member => is_word_character_iff.2 (letters c member)⟩

instance (word : List Char) : Decidable (IsWord word) := decidable_of_iff _ is_word_iff

def firstWord (text : List Char) : List Char := text.takeWhile isWordCharacter

def afterWord (text : List Char) : List Char := text.dropWhile isWordCharacter

theorem first_word_cons {c : Char} (letter : isBlank c = false) (rest : List Char) :
    firstWord (c :: rest) = c :: firstWord rest :=
  List.takeWhile_cons_of_pos (is_word_character_iff.2 letter)

theorem after_word_cons {c : Char} (letter : isBlank c = false) (rest : List Char) :
    afterWord (c :: rest) = afterWord rest :=
  List.dropWhile_cons_of_pos (is_word_character_iff.2 letter)

theorem first_word_break (text : List Char) (breaks : breaksWord text = true) :
    firstWord text = [] := by
  cases text with
  | nil => rfl
  | cons c rest =>
      have blank : isBlank c = true := breaks
      simp [firstWord, isWordCharacter, blank]

theorem after_word_break (text : List Char) (breaks : breaksWord text = true) :
    afterWord text = text := by
  cases text with
  | nil => rfl
  | cons c rest =>
      have blank : isBlank c = true := breaks
      simp [afterWord, isWordCharacter, blank]

theorem first_word_append (text : List Char) : firstWord text ++ afterWord text = text :=
  List.takeWhile_append_dropWhile

theorem take_before_after_word (text : List Char) :
    text.take (text.length - (afterWord text).length) = firstWord text := by
  have parts := first_word_append text
  have lengths : (firstWord text).length + (afterWord text).length = text.length := by
    rw [← List.length_append, parts]
  have count : text.length - (afterWord text).length = (firstWord text).length := by omega
  calc text.take (text.length - (afterWord text).length)
      = (firstWord text ++ afterWord text).take (firstWord text).length := by rw [count, parts]
    _ = firstWord text := List.take_left

theorem breaks_word_after_word (text : List Char) : breaksWord (afterWord text) = true := by
  induction text with
  | nil => rfl
  | cons c rest induction =>
      cases blank : isBlank c with
      | true => rwa [after_word_break (c :: rest) blank]
      | false => rwa [after_word_cons blank rest]

theorem words_cons_breaks {c : Char} {rest : List Char} (letter : isBlank c = false)
    (breaks : breaksWord rest = true) : words (c :: rest) = [c] :: words rest := by
  simp [words, letter, breaks]

theorem words_cons_goes_on {c : Char} {rest word : List Char} {more : List (List Char)}
    (letter : isBlank c = false) (goesOn : breaksWord rest = false)
    (found : words rest = word :: more) : words (c :: rest) = (c :: word) :: more := by
  simp [words, letter, goesOn, found]

theorem words_ne_nil {text : List Char} (goesOn : breaksWord text = false) : words text ≠ [] := by
  cases text with
  | nil => cases goesOn
  | cons c rest =>
      have letter : isBlank c = false := goesOn
      unfold words
      rw [letter]
      cases breaksWord rest with
      | true => simp
      | false => cases words rest <;> simp

theorem is_word_of_mem_words {text word : List Char} (member : word ∈ words text) :
    IsWord word := by
  induction text generalizing word with
  | nil => cases member
  | cons c rest induction =>
      cases letter : isBlank c with
      | true =>
          rw [words_cons_blank letter] at member
          exact induction member
      | false =>
          cases breaks : breaksWord rest with
          | true =>
              rw [words_cons_breaks letter breaks] at member
              rcases List.mem_cons.1 member with rfl | later
              · exact ⟨List.cons_ne_nil c [], by simp [letter]⟩
              · exact induction later
          | false =>
              obtain ⟨head, more, found⟩ := List.exists_cons_of_ne_nil (words_ne_nil breaks)
              rw [words_cons_goes_on letter breaks found] at member
              rw [found] at induction
              rcases List.mem_cons.1 member with rfl | later
              · have shorter := induction List.mem_cons_self
                exact ⟨List.cons_ne_nil c head, List.forall_mem_cons.2 ⟨letter, shorter.letters⟩⟩
              · exact induction (List.mem_cons_of_mem head later)

theorem words_append_blank {c : Char} (blank : isBlank c = true) (front rest : List Char) :
    words (front ++ c :: rest) = words front ++ words rest := by
  induction front with
  | nil => exact words_cons_blank blank rest
  | cons first front induction =>
      cases letter : isBlank first with
      | true =>
          rw [List.cons_append, words_cons_blank letter, words_cons_blank letter, induction]
      | false =>
          have same : breaksWord (front ++ c :: rest) = breaksWord front := by
            cases front with
            | nil => exact blank
            | cons second front => rfl
          cases breaks : breaksWord front with
          | true =>
              rw [List.cons_append, words_cons_breaks letter (same.trans breaks),
                words_cons_breaks letter breaks, induction, List.cons_append]
          | false =>
              obtain ⟨word, more, found⟩ := List.exists_cons_of_ne_nil (words_ne_nil breaks)
              rw [found, List.cons_append] at induction
              rw [List.cons_append, words_cons_goes_on letter (same.trans breaks) induction,
                words_cons_goes_on letter breaks found, List.cons_append]

theorem words_word {word : List Char} (isWord : IsWord word) : words word = [word] := by
  obtain ⟨nonempty, letters⟩ := isWord
  induction word with
  | nil => exact absurd rfl nonempty
  | cons c rest induction =>
      have letter := letters c List.mem_cons_self
      have later : ∀ other ∈ rest, isBlank other = false := fun other member =>
        letters other (List.mem_cons_of_mem c member)
      cases rest with
      | nil => exact words_cons_breaks letter rfl
      | cons second rest =>
          exact words_cons_goes_on letter (later second List.mem_cons_self)
            (induction (List.cons_ne_nil second rest) later)

theorem words_append {word rest : List Char} (isWord : IsWord word)
    (breaks : breaksWord rest = true) : words (word ++ rest) = word :: words rest := by
  cases rest with
  | nil => rw [List.append_nil, words_word isWord, words_nil]
  | cons c rest =>
      have blank : isBlank c = true := breaks
      rw [words_append_blank blank, words_word isWord, words_cons_blank blank]
      rfl

theorem first_word_is_word {c : Char} (rest : List Char) (letter : isBlank c = false) :
    IsWord (firstWord (c :: rest)) := by
  constructor
  · rw [first_word_cons letter]
    exact List.cons_ne_nil c _
  · intro other member
    exact is_word_character_iff.1 (List.mem_takeWhile_imp member)

theorem words_eq_first_word {c : Char} {rest : List Char} (letter : isBlank c = false) :
    words (c :: rest) = firstWord (c :: rest) :: words (afterWord (c :: rest)) := by
  have whole := words_append (first_word_is_word rest letter)
    (breaks_word_after_word (c :: rest))
  rwa [first_word_append] at whole

theorem words_trim_front (text : List Char) : words (trimFront text) = words text := by
  induction text with
  | nil => rfl
  | cons c rest induction =>
      unfold trimFront
      rw [List.dropWhile_cons]
      split
      · rename_i blank
        rw [words_cons_blank blank]
        exact induction
      · rfl

theorem words_append_blanks (text : List Char) {blanks : List Char}
    (allBlank : ∀ c ∈ blanks, isBlank c = true) : words (text ++ blanks) = words text := by
  induction blanks generalizing text with
  | nil => rw [List.append_nil]
  | cons c blanks induction =>
      have later : ∀ other ∈ blanks, isBlank other = true := fun other member =>
        allBlank other (List.mem_cons_of_mem c member)
      have none : words blanks = [] := induction [] later
      rw [words_append_blank (allBlank c List.mem_cons_self), none, List.append_nil]

theorem trim_back_append (text : List Char) :
    trimBack text ++ (text.reverse.takeWhile isBlank).reverse = text := by
  rw [trimBack, trimFront, ← List.reverse_append, List.takeWhile_append_dropWhile,
    List.reverse_reverse]

theorem words_trim_back (text : List Char) : words (trimBack text) = words text := by
  have blanks : ∀ c ∈ (text.reverse.takeWhile isBlank).reverse, isBlank c = true := by
    intro c member
    exact List.mem_takeWhile_imp (List.mem_reverse.1 member)
  rw [← words_append_blanks (trimBack text) blanks, trim_back_append]

theorem words_trim (text : List Char) : words (trim text) = words text := by
  rw [trim, words_trim_back, words_trim_front]

theorem mem_trim_of_mem {c : Char} (letter : isBlank c = false) {text : List Char}
    (member : c ∈ text) : c ∈ trim text := by
  have front (chars : List Char) (inside : c ∈ chars) : c ∈ trimFront chars := by
    rw [← List.takeWhile_append_dropWhile (p := isBlank) (l := chars)] at inside
    rcases List.mem_append.1 inside with taken | kept
    · have blank := List.mem_takeWhile_imp taken
      rw [letter] at blank
      cases blank
    · exact kept
  apply List.mem_reverse.2
  apply front
  apply List.mem_reverse.2
  exact front text member

theorem trim_front_eq_self {text : List Char} (solid : ∀ c ∈ text, isBlank c = false) :
    trimFront text = text := by
  cases text with
  | nil => rfl
  | cons c rest =>
      apply List.dropWhile_cons_of_neg
      simp [solid c List.mem_cons_self]

theorem trim_eq_self {text : List Char} (solid : ∀ c ∈ text, isBlank c = false) :
    trim text = text := by
  have reversed : ∀ c ∈ text.reverse, isBlank c = false := by
    intro c member
    exact solid c (List.mem_reverse.1 member)
  rw [trim, trim_front_eq_self solid, trimBack, trim_front_eq_self reversed, List.reverse_reverse]

theorem trim_starts {text : List Char} {c : Char} {rest : List Char}
    (trimmed : trim text = c :: rest) : isBlank c = false := by
  have parts := trim_back_append (trimFront text)
  rw [← trim, trimmed, List.cons_append] at parts
  have head := List.head?_dropWhile_not isBlank text
  rw [← trimFront, ← parts] at head
  exact head

end NetworkTwin.Text
