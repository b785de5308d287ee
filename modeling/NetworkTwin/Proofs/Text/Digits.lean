import NetworkTwin.Text.Numeral

/-!
Numbers as texts that can be told apart. A decimal numeral with zeros in front still tells its
number, and digits of a fixed number tell every number that they can hold. Texts on both sides of a
separator can be told from the whole where one side is known to be free of separators.
-/

namespace NetworkTwin.Text

/-! Parts of a text -/

/-- What stands before the first separator, and what stands after it. -/
theorem parts_at_first {α : Type} {separator : α} {left other right more : List α}
    (free : separator ∉ left) (free' : separator ∉ other)
    (same : left ++ separator :: right = other ++ separator :: more) :
    left = other ∧ right = more := by
  induction left generalizing other with
  | nil =>
      cases other with
      | nil => exact ⟨rfl, (List.cons.inj same).2⟩
      | cons first rest =>
          exact absurd ((List.cons.inj same).1 ▸ List.mem_cons_self) free'
  | cons first rest induction =>
      cases other with
      | nil => exact absurd ((List.cons.inj same).1 ▸ List.mem_cons_self) free
      | cons second more =>
          obtain ⟨rfl, later⟩ := List.cons.inj same
          obtain ⟨rfl, rfl⟩ := induction (fun member => free (List.mem_cons_of_mem _ member))
            (fun member => free' (List.mem_cons_of_mem _ member)) later
          exact ⟨rfl, rfl⟩

theorem parts_at_last {α : Type} {separator : α} {left other right more : List α}
    (free : separator ∉ right) (free' : separator ∉ more)
    (same : left ++ separator :: right = other ++ separator :: more) :
    left = other ∧ right = more := by
  have turned := congrArg List.reverse same
  simp only [List.reverse_append, List.reverse_cons, List.append_assoc, List.singleton_append]
    at turned
  obtain ⟨sameRight, sameLeft⟩ := parts_at_first (by simpa using free) (by simpa using free') turned
  exact ⟨List.reverse_inj.1 sameLeft, List.reverse_inj.1 sameRight⟩

/-! Decimal numerals -/

theorem decimal_characters (value : Nat) : ∀ c ∈ (toString value).toList, c.isDigit = true := by
  rw [Nat.toString_eq_ofList_toDigits, String.toList_ofList]
  exact fun c member => Nat.isDigit_of_mem_toDigits (by decide) (by decide) member

theorem decimal_inj {value other : Nat} (same : toString value = toString other) :
    value = other := by
  rw [Nat.toString_eq_ofList_toDigits, Nat.toString_eq_ofList_toDigits] at same
  have digits := String.ofList_injective same
  rw [← Nat.ofDigitChars_ten_toDigits (n := value), digits, Nat.ofDigitChars_ten_toDigits]

theorem padded_decimal_to_list (width value : Nat) :
    (paddedDecimal width value).toList =
      List.replicate (width - (Nat.toDigits 10 value).length) '0' ++ Nat.toDigits 10 value := by
  unfold paddedDecimal
  rw [Nat.toString_eq_ofList_toDigits]
  simp only [String.toList_append, String.toList_ofList, String.length_ofList]

theorem padded_decimal_characters (width value : Nat) :
    ∀ c ∈ (paddedDecimal width value).toList, c.isDigit = true := by
  intro c member
  rw [padded_decimal_to_list] at member
  rcases List.mem_append.1 member with zero | digit
  · rw [List.eq_of_mem_replicate zero]
    rfl
  · exact Nat.isDigit_of_mem_toDigits (by decide) (by decide) digit

theorem not_mem_padded_decimal {c : Char} (mark : c.isDigit = false) (width value : Nat) :
    c ∉ (paddedDecimal width value).toList := fun member =>
  Bool.false_ne_true (mark.symm.trans (padded_decimal_characters width value c member))

theorem of_digit_chars_padded_decimal (width value : Nat) :
    Nat.ofDigitChars 10 (paddedDecimal width value).toList 0 = value := by
  have zeros (count : Nat) : Nat.ofDigitChars 10 (List.replicate count '0') 0 = 0 := by
    induction count with
    | zero => rfl
    | succ count induction =>
        rw [List.replicate_succ, Nat.ofDigitChars_cons]
        exact induction
  rw [padded_decimal_to_list, Nat.ofDigitChars_append, zeros, Nat.ofDigitChars_ten_toDigits]

theorem padded_decimal_inj {width width' value other : Nat}
    (same : (paddedDecimal width value).toList = (paddedDecimal width' other).toList) :
    value = other := by
  rw [← of_digit_chars_padded_decimal width value, same, of_digit_chars_padded_decimal]

theorem length_padded_decimal {width value : Nat} (positive : 0 < width)
    (below : value < Nat.pow 10 width) : (paddedDecimal width value).toList.length = width := by
  have short := (Nat.length_toDigits_le_iff (by decide) positive).2 below
  rw [padded_decimal_to_list, List.length_append, List.length_replicate]
  omega

/-! Hexadecimal digits of a fixed number -/

/-- The digits that stand for less than sixteen, letters in lower case. -/
def isHexDigit (c : Char) : Bool := ('0' ≤ c && c ≤ '9') || ('a' ≤ c && c ≤ 'f')

theorem digit_char_is_hex {digit : Nat} (below : digit < 16) :
    isHexDigit (digitChar digit) = true := by
  have each : ∀ digit : Fin 16, isHexDigit (digitChar digit) = true := by decide
  exact each ⟨digit, below⟩

theorem digit_char_inj {digit other : Nat} (below : digit < 16) (below' : other < 16)
    (same : digitChar digit = digitChar other) : digit = other := by
  have each : ∀ digit other : Fin 16, digitChar digit = digitChar other → digit = other := by
    decide
  exact congrArg Fin.val (each ⟨digit, below⟩ ⟨other, below'⟩ same)

theorem length_digits_low (base width value : Nat) : (digitsLow base width value).length = width := by
  induction width generalizing value with
  | zero => rfl
  | succ width induction => rw [digitsLow, List.length_cons, induction]

theorem digits_low_are_hex (width value : Nat) :
    ∀ c ∈ digitsLow 16 width value, isHexDigit c = true := by
  induction width generalizing value with
  | zero => simp [digitsLow]
  | succ width induction =>
      exact List.forall_mem_cons.2 ⟨digit_char_is_hex (Nat.mod_lt _ (by decide)), induction _⟩

theorem digits_low_inj {width value other : Nat} (below : value < Nat.pow 16 width)
    (below' : other < Nat.pow 16 width)
    (same : digitsLow 16 width value = digitsLow 16 width other) : value = other := by
  induction width generalizing value other with
  | zero =>
      change value < 1 at below
      change other < 1 at below'
      omega
  | succ width induction =>
      obtain ⟨sameDigit, sameRest⟩ := List.cons.inj same
      have lowest := digit_char_inj (Nat.mod_lt _ (by decide)) (Nat.mod_lt _ (by decide)) sameDigit
      have size : Nat.pow 16 (width + 1) = Nat.pow 16 width * 16 := rfl
      rw [size] at below below'
      have higher := induction (Nat.div_lt_of_lt_mul (by omega)) (Nat.div_lt_of_lt_mul (by omega))
        sameRest
      omega

end NetworkTwin.Text
