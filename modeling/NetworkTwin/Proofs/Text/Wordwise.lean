import NetworkTwin.Proofs.Text.Keywords
import NetworkTwin.Text.Pattern

/-!
Patterns that go by words. A pattern sees characters and may give back what it has taken, so that it
could stop in the middle of a word. A pattern in which every word is followed by blanks never gets
anywhere that way: what it does depends on the words of the text alone.
-/

namespace NetworkTwin.Text

variable {Label α : Type}

/-- A way to go on that depends on the words to come. -/
abbrev WordReading (Label α : Type) := Captures Label → List (List Char) → Option α

namespace WordReading

/-- Expects a word, keeps of it what is to be kept, and goes on with the words after it. -/
def expect (accepts : List Char → Bool) (keep : List Char → Captures Label → Captures Label)
    (next : WordReading Label α) : WordReading Label α
  | _, [] => none
  | captures, word :: rest => if accepts word then next (keep word captures) rest else none

def orElse (first second : WordReading Label α) : WordReading Label α :=
  fun captures words => (first captures words).orElse fun _ => second captures words

theorem expect_eq_some_iff {accepts : List Char → Bool}
    {keep : List Char → Captures Label → Captures Label} {next : WordReading Label α}
    {captures : Captures Label} {tokens : List String} {found : α} :
    next.expect accepts keep captures (tokens.map String.toList) = some found ↔
      ∃ word rest, tokens = word :: rest ∧ accepts word.toList = true ∧
        next (keep word.toList captures) (rest.map String.toList) = some found := by
  constructor
  · intro reached
    cases tokens with
    | nil => cases reached
    | cons word rest =>
        rw [List.map_cons, expect] at reached
        split at reached
        · rename_i accepted
          exact ⟨word, rest, rfl, accepted, reached⟩
        · cases reached
  · rintro ⟨word, rest, rfl, accepted, reached⟩
    rw [List.map_cons, expect, if_pos accepted, reached]

theorem or_else_eq_some_iff {first second : WordReading Label α} {captures : Captures Label}
    {words : List (List Char)} {found : α} :
    first.orElse second captures words = some found ↔
      first captures words = some found ∨
        first captures words = none ∧ second captures words = some found := by
  cases reached : first captures words <;> simp [orElse, reached]

end WordReading

/-- A way to go on that reads words from the end of a word, and that fails in the middle of one. -/
structure FromBreak (next : Captures Label → List Char → Option α) (reading : WordReading Label α) :
    Prop where
  atBreak : ∀ captures text, breaksWord text = true →
    next captures text = reading captures (words text)
  insideWord : ∀ captures c rest, isBlank c = false → next captures (c :: rest) = none

/-- A way to go on that reads words from the start of a word, and that fails before blanks. -/
structure FromWord (next : Captures Label → List Char → Option α) (reading : WordReading Label α) :
    Prop where
  atWord : ∀ captures c rest, isBlank c = false →
    next captures (c :: rest) = reading captures (words (c :: rest))
  atBreak : ∀ captures text, breaksWord text = true → next captures text = none
  withoutWords : ∀ captures, reading captures [] = none

/-- A stretch takes all it can if nothing comes of stopping earlier, or if what comes after all of
it succeeds. -/
theorem after_stretch_eq {test : Char → Bool} {next : List Char → Option α} (c : Char)
    (rest : List Char) (passes : test c = true)
    (longest : (∀ c rest, test c = true → next (c :: rest) = none) ∨
      (next (rest.dropWhile test)).isSome = true) :
    afterStretch test next (c :: rest) = next (rest.dropWhile test) := by
  rw [afterStretch, if_pos passes]
  induction rest generalizing c with
  | nil => rfl
  | cons second rest induction =>
      cases more : test second with
      | false => simp [afterStretch, more]
      | true =>
          rw [List.dropWhile_cons_of_pos more] at longest ⊢
          rw [afterStretch, if_pos more, induction second more longest]
          rcases longest with stuck | succeeds
          · rw [stuck second rest more]
            cases next (rest.dropWhile test) <;> rfl
          · obtain ⟨found, reached⟩ := Option.isSome_iff_exists.1 succeeds
            rw [reached]
            rfl

theorem after_stretch_eq_none {test : Char → Bool} {next : List Char → Option α} {text : List Char}
    (stops : ∀ c rest, text = c :: rest → test c = false) : afterStretch test next text = none := by
  cases text with
  | nil => rfl
  | cons c rest => simp [afterStretch, stops c rest rfl]

theorem FromWord.after_blanks {next : Captures Label → List Char → Option α}
    {reading : WordReading Label α} (later : FromWord next reading) :
    FromBreak (Pattern.attempt next (.stretch isBlank)) reading := by
  constructor
  · intro captures text breaks
    cases text with
    | nil => exact (later.withoutWords captures).symm
    | cons c rest =>
        have blank : isBlank c = true := breaks
        have stuck : ∀ c rest, isBlank c = true → next captures (c :: rest) = none :=
          fun c rest blank => later.atBreak captures (c :: rest) blank
        have words_after : words (c :: rest) = words (rest.dropWhile isBlank) := by
          rw [words_cons_blank blank]
          exact (words_trim_front rest).symm
        rw [Pattern.attempt, after_stretch_eq c rest blank (Or.inl stuck), words_after]
        cases after : rest.dropWhile isBlank with
        | nil => rw [later.atBreak captures [] rfl, words_nil, later.withoutWords]
        | cons first more =>
            have letter : isBlank first = false := by
              have head := List.head?_dropWhile_not isBlank rest
              rw [after] at head
              simpa using head
            exact later.atWord captures first more letter
  · intro captures c rest letter
    exact after_stretch_eq_none fun first more same => by
      rw [← (List.cons.inj same).1, letter]

/-- A pattern that takes whole words: of a text that starts with a word it takes that word, if it
accepts it, whatever follows as long as that fails in the middle of a word. -/
structure TakesWord (pattern : Pattern Label) (accepts : List Char → Bool)
    (keep : List Char → Captures Label → Captures Label) : Prop where
  atWord : ∀ {α : Type} (next : Captures Label → List Char → Option α),
    (∀ captures c rest, isBlank c = false → next captures (c :: rest) = none) →
    ∀ captures text, breaksWord text = false →
      pattern.attempt next captures text =
        if accepts (firstWord text) then next (keep (firstWord text) captures) (afterWord text)
        else none
  atBreak : ∀ {α : Type} (next : Captures Label → List Char → Option α) captures text,
    breaksWord text = true → pattern.attempt next captures text = none

theorem TakesWord.before {pattern : Pattern Label} {accepts : List Char → Bool}
    {keep : List Char → Captures Label → Captures Label} (takes : TakesWord pattern accepts keep)
    {next : Captures Label → List Char → Option α} {reading : WordReading Label α}
    (later : FromBreak next reading) :
    FromWord (pattern.attempt next) (reading.expect accepts keep) := by
  constructor
  · intro captures c rest letter
    rw [takes.atWord next later.insideWord captures (c :: rest) letter, words_eq_first_word letter,
      later.atBreak _ _ (breaks_word_after_word (c :: rest))]
    rfl
  · exact takes.atBreak next
  · intro captures
    rfl

theorem FromWord.optional {inner : Pattern Label} {next : Captures Label → List Char → Option α}
    {first second : WordReading Label α} (tried : FromWord (inner.attempt next) first)
    (without : FromWord next second) :
    FromWord (Pattern.attempt next (.optional inner)) (first.orElse second) := by
  constructor
  · intro captures c rest letter
    rw [Pattern.attempt, tried.atWord captures c rest letter, without.atWord captures c rest letter]
    rfl
  · intro captures text breaks
    rw [Pattern.attempt, tried.atBreak captures text breaks, without.atBreak captures text breaks]
    rfl
  · intro captures
    rw [WordReading.orElse, tried.withoutWords, without.withoutWords]
    rfl

theorem takes_word_stretch :
    TakesWord (.stretch isWordCharacter : Pattern Label) (fun _ => true)
      fun _ captures => captures := by
  constructor
  · intro α next insideWord captures text letter
    cases text with
    | nil => cases letter
    | cons c rest =>
        have passes : isWordCharacter c = true := is_word_character_iff.2 letter
        have stuck : ∀ c rest, isWordCharacter c = true → next captures (c :: rest) = none :=
          fun c rest passes => insideWord captures c rest (is_word_character_iff.1 passes)
        rw [Pattern.attempt, after_stretch_eq c rest passes (Or.inl stuck), if_pos rfl, afterWord,
          List.dropWhile_cons_of_pos passes]
  · intro α next captures text breaks
    refine after_stretch_eq_none fun c rest same => ?_
    subst same
    have blank : isBlank c = true := breaks
    simp [isWordCharacter, blank]

/-- After a keyword goes on what follows it only if the keyword is the whole first word. -/
theorem after_keyword_bind {letters : List Char}
    (solid : ∀ letter ∈ letters, isBlank letter = false)
    {next : List Char → Option α}
    (insideWord : ∀ c rest, isBlank c = false → next (c :: rest) = none) (text : List Char) :
    (afterKeyword? letters text).bind next =
      if (firstWord text).map foldLetter = letters then next (afterWord text) else none := by
  induction letters generalizing text with
  | nil =>
      rw [afterKeyword?, Option.bind_some]
      cases breaks : breaksWord text with
      | true =>
          rw [first_word_break text breaks, after_word_break text breaks, List.map_nil, if_pos rfl]
      | false =>
          cases text with
          | nil => cases breaks
          | cons c rest => rw [insideWord c rest breaks, first_word_cons breaks, if_neg (by simp)]
  | cons letter letters induction =>
      cases text with
      | nil => simp [afterKeyword?, firstWord]
      | cons c rest =>
          have later := induction (fun other member =>
            solid other (List.mem_cons_of_mem letter member)) rest
          rw [afterKeyword?]
          cases blank : isBlank c with
          | true =>
              rw [if_neg (fold_letter_ne blank (solid letter List.mem_cons_self)),
                first_word_break (c :: rest) blank, if_neg (by simp)]
              rfl
          | false =>
              rw [first_word_cons blank, after_word_cons blank, List.map_cons]
              by_cases same : foldLetter c = letter
              · rw [if_pos same, later, same]
                simp only [List.cons.injEq, true_and]
              · rw [if_neg same, if_neg (by simp [same])]
                rfl

theorem after_keyword_break {letters : List Char} (isWord : IsWord letters) {text : List Char}
    (breaks : breaksWord text = true) : afterKeyword? letters text = none := by
  obtain ⟨letter, letters, rfl⟩ := List.exists_cons_of_ne_nil isWord.nonempty
  cases text with
  | nil => rfl
  | cons c rest =>
      rw [afterKeyword?, if_neg (fold_letter_ne breaks (isWord.letters letter List.mem_cons_self))]

theorem takes_word_one_of {keywords : List String}
    (solid : ∀ keyword ∈ keywords, IsWord keyword.toList) :
    TakesWord (.oneOf keywords : Pattern Label) (fun word => keywords.any (foldsTo word))
      fun _ captures => captures := by
  constructor
  · intro α next insideWord captures text letter
    rw [Pattern.attempt]
    induction keywords with
    | nil => rfl
    | cons keyword keywords induction =>
        have later := induction fun other member => solid other (List.mem_cons_of_mem keyword member)
        have taken := after_keyword_bind (solid keyword List.mem_cons_self).letters
          (insideWord captures) text
        rw [List.findSome?_cons, taken, later, List.any_cons, foldsTo]
        by_cases same : (firstWord text).map foldLetter = keyword.toList
        · rw [if_pos same, beq_iff_eq.2 same, Bool.true_or, if_pos rfl]
          cases next captures (afterWord text) <;> simp
        · rw [if_neg same, beq_eq_false_iff_ne.2 same, Bool.false_or]
  · intro α next captures text breaks
    rw [Pattern.attempt, List.findSome?_eq_none_iff]
    intro keyword member
    rw [after_keyword_break (solid keyword member) breaks]
    rfl

theorem TakesWord.capture {inner : Pattern Label} {accepts : List Char → Bool}
    {keep : List Char → Captures Label → Captures Label} (takes : TakesWord inner accepts keep)
    (label : Label) :
    TakesWord (.capture label inner) accepts
      fun word captures => (label, word) :: keep word captures := by
  constructor
  · intro α next insideWord captures text letter
    have taken := takes.atWord
      (fun captures rest => next ((label, text.take (text.length - rest.length)) :: captures) rest)
      (fun captures c rest blank => insideWord _ c rest blank) captures text letter
    rw [Pattern.attempt, taken, take_before_after_word]
  · intro α next captures text breaks
    exact takes.atBreak _ captures text breaks

/-- The last word of a pattern is taken whole because what comes after it cannot fail. -/
theorem last_word_captured {next : Captures Label → List Char → Option α}
    {reading : WordReading Label α} (label : Label)
    (later : ∀ captures text, breaksWord text = true →
      next captures text = reading captures (words text))
    (succeeds : ∀ captures text, (next captures text).isSome = true) :
    FromWord (Pattern.attempt next (.capture label (.stretch isWordCharacter)))
      (reading.expect (fun _ => true) fun word captures => (label, word) :: captures) := by
  constructor
  · intro captures c rest letter
    have passes : isWordCharacter c = true := is_word_character_iff.2 letter
    have after : rest.dropWhile isWordCharacter = afterWord (c :: rest) :=
      (after_word_cons letter rest).symm
    have taken : Pattern.attempt next (.capture label (.stretch isWordCharacter)) captures
        (c :: rest) = next ((label, firstWord (c :: rest)) :: captures) (afterWord (c :: rest)) := by
      rw [← take_before_after_word, ← after]
      exact after_stretch_eq c rest passes (Or.inr (succeeds _ _))
    rw [taken, later _ _ (breaks_word_after_word (c :: rest)), words_eq_first_word letter]
    rfl
  · exact (takes_word_stretch.capture label).atBreak next
  · intro captures
    rfl

end NetworkTwin.Text
