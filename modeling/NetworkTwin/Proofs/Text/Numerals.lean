import NetworkTwin.Text.Numeral

/-!
Decimal numerals as texts. A numeral is a run of digits, any number of them zeros at the front, with
at most one plus sign before it. Reading a number below a bound succeeds on the numerals of such
numbers and on no other text: not on signs alone, not on a minus sign, not on blanks.
-/

namespace NetworkTwin.Text

/-- A run of digits that denotes a number. -/
structure IsRunOfDigits (digits : List Char) (value : Nat) : Prop where
  nonempty : digits ≠ []
  characters : ∀ c ∈ digits, c.isDigit = true
  denotes : Nat.ofDigitChars 10 digits 0 = value

/-- The decimal numerals of a number. -/
inductive IsNumeral : List Char → Nat → Prop
  | plain {digits : List Char} {value : Nat} :
      IsRunOfDigits digits value → IsNumeral digits value
  | signed {digits : List Char} {value : Nat} :
      IsRunOfDigits digits value → IsNumeral ('+' :: digits) value

theorem digit_of_digit_value {c : Char} {digit : Nat} (read : digitValue? 10 c = some digit) :
    c.isDigit = true := by
  unfold digitValue? at read
  obtain ⟨valued, below⟩ := Option.filter_eq_some_iff.1 read
  have small : digit < 10 := of_decide_eq_true below
  split at valued
  · rename_i range
    exact range
  · -- The letters are digits of larger bases only: they stand for ten and more.
    split at valued
    · have value := Option.some.inj valued
      omega
    · split at valued
      · have value := Option.some.inj valued
        omega
      · cases valued

theorem digits_from_eq_some_iff {text : List Char} {start value : Nat} :
    digitsFrom? 10 start text = some value ↔
      (∀ c ∈ text, c.isDigit = true) ∧ Nat.ofDigitChars 10 text start = value := by
  constructor
  · intro read
    have digits : ∀ c ∈ text, c.isDigit = true := by
      induction text generalizing start with
      | nil => simp
      | cons c rest induction =>
          unfold digitsFrom? at read
          cases valued : digitValue? 10 c with
          | none =>
              rw [valued] at read
              cases read
          | some digit =>
              rw [valued] at read
              exact List.forall_mem_cons.2 ⟨digit_of_digit_value valued, induction read⟩
    rw [digits_from_of_digits digits] at read
    exact ⟨digits, Option.some.inj read⟩
  · rintro ⟨digits, same⟩
    rw [digits_from_of_digits digits, same]

theorem digits_eq_some_iff {text : List Char} {value : Nat} :
    digits? 10 text = some value ↔ IsRunOfDigits text value := by
  unfold digits?
  cases text with
  | nil =>
      constructor
      · intro read
        cases read
      · intro run
        exact absurd rfl run.nonempty
  | cons c rest =>
      simp only [List.isEmpty_cons, Bool.false_eq_true, if_false, digits_from_eq_some_iff]
      constructor
      · rintro ⟨digits, same⟩
        exact ⟨List.cons_ne_nil c rest, digits, same⟩
      · intro run
        exact ⟨run.characters, run.denotes⟩

theorem IsRunOfDigits.not_signed {rest : List Char} {value : Nat}
    (run : IsRunOfDigits ('+' :: rest) value) : False :=
  absurd (run.characters '+' List.mem_cons_self) (by decide)

theorem is_numeral_signed_iff {rest : List Char} {value : Nat} :
    IsNumeral ('+' :: rest) value ↔ IsRunOfDigits rest value := by
  constructor
  · intro numeral
    cases numeral with
    | plain run => exact run.not_signed.elim
    | signed run => exact run
  · exact .signed

theorem is_numeral_unsigned_iff {text : List Char} {value : Nat}
    (unsigned : ∀ rest, text ≠ '+' :: rest) : IsNumeral text value ↔ IsRunOfDigits text value := by
  constructor
  · intro numeral
    cases numeral with
    | plain run => exact run
    | signed run => exact absurd rfl (unsigned _)
  · exact .plain

theorem natural_below_eq_some_iff {bound value : Nat} {text : List Char} :
    naturalBelow? bound text = some value ↔ IsNumeral text value ∧ value < bound := by
  unfold naturalBelow?
  rw [Option.filter_eq_some_iff, decide_eq_true_iff]
  split
  · rw [digits_eq_some_iff, is_numeral_signed_iff]
  · rename_i unsigned
    rw [digits_eq_some_iff, is_numeral_unsigned_iff unsigned]

theorem IsNumeral.characters {text : List Char} {value : Nat} (numeral : IsNumeral text value) :
    ∀ c ∈ text, c.isDigit = true ∨ c = '+' := by
  intro c member
  cases numeral with
  | plain run => exact Or.inl (run.characters c member)
  | signed run =>
      rcases List.mem_cons.1 member with same | later
      · exact Or.inr same
      · exact Or.inl (run.characters c later)

end NetworkTwin.Text
