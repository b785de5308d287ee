/-!
Numerals: reading digits of a base, and writing a number in a base with a least width.
-/

namespace NetworkTwin.Text

def digitValue? (base : Nat) (c : Char) : Option Nat :=
  let value? : Option Nat :=
    if '0' ≤ c && c ≤ '9' then some (c.toNat - '0'.toNat)
    else if 'a' ≤ c && c ≤ 'f' then some (c.toNat - 'a'.toNat + 10)
    else if 'A' ≤ c && c ≤ 'F' then some (c.toNat - 'A'.toNat + 10)
    else none
  value?.filter (· < base)

def isDigit (c : Char) : Bool := '0' ≤ c && c ≤ '9'

def digitsFrom? (base : Nat) : Nat → List Char → Option Nat
  | value, [] => some value
  | value, c :: rest =>
      match digitValue? base c with
      | some digit => digitsFrom? base (value * base + digit) rest
      | none => none

def digits? (base : Nat) (text : List Char) : Option Nat :=
  if text.isEmpty then none else digitsFrom? base 0 text

/-- A decimal numeral below a bound. One plus sign may lead, and so may zeros. -/
def naturalBelow? (bound : Nat) (text : List Char) : Option Nat :=
  let unsigned := match text with
    | '+' :: rest => rest
    | _ => text
  (digits? 10 unsigned).filter (· < bound)

def digitChar (digit : Nat) : Char :=
  if digit < 10 then Char.ofNat ('0'.toNat + digit) else Char.ofNat ('a'.toNat + digit - 10)

/-- The digits of a number in a base, least significant first: as many as `width`, no more. -/
def digitsLow (base : Nat) : Nat → Nat → List Char
  | 0, _ => []
  | width + 1, value => digitChar (value % base) :: digitsLow base width (value / base)

/-- A number in exactly `width` digits of a base, whatever does not fit dropped. -/
def fixedDigits (base width value : Nat) : String :=
  String.ofList (digitsLow base width value).reverse

def paddedDecimal (width value : Nat) : String :=
  let plain := toString value
  String.ofList (List.replicate (width - plain.length) '0') ++ plain

theorem digit_value_of_digit {c : Char} (digit : c.isDigit = true) :
    digitValue? 10 c = some (c.toNat - '0'.toNat) := by
  rw [Char.isDigit, Bool.and_eq_true, decide_eq_true_iff, decide_eq_true_iff] at digit
  have range : ('0' ≤ c && c ≤ '9') = true :=
    Bool.and_eq_true_iff.2 ⟨decide_eq_true digit.1, decide_eq_true digit.2⟩
  have least : 48 ≤ c.toNat := digit.1
  have greatest : c.toNat ≤ 57 := digit.2
  have below : c.toNat - '0'.toNat < 10 := by
    change c.toNat - 48 < 10
    omega
  rw [digitValue?, if_pos range]
  exact Option.filter_some_pos (decide_eq_true below)

theorem digits_from_of_digits {text : List Char} (digits : ∀ c ∈ text, c.isDigit = true)
    (value : Nat) : digitsFrom? 10 value text = some (Nat.ofDigitChars 10 text value) := by
  induction text generalizing value with
  | nil => rfl
  | cons c rest induction =>
      have later := induction fun other member => digits other (List.mem_cons_of_mem c member)
      rw [digitsFrom?, digit_value_of_digit (digits c List.mem_cons_self), Nat.ofDigitChars_cons,
        Nat.mul_comm 10 value]
      exact later _

theorem natural_below_of_decimal {bound value : Nat} (below : value < bound) :
    naturalBelow? bound (toString value).toList = some value := by
  have digits : ∀ c ∈ Nat.toDigits 10 value, c.isDigit = true := fun c member =>
    Nat.isDigit_of_mem_toDigits (by decide) (by decide) member
  have read : digits? 10 (Nat.toDigits 10 value) = some value := by
    rw [digits?, if_neg (by simp [Nat.toDigits_ne_nil]), digits_from_of_digits digits,
      Nat.ofDigitChars_ten_toDigits]
  have unsigned : ∀ rest, Nat.toDigits 10 value ≠ '+' :: rest := fun rest same =>
    absurd (digits '+' (same ▸ List.mem_cons_self)) (by decide)
  rw [Nat.toString_eq_ofList_toDigits, String.toList_ofList, naturalBelow?, read]
  · exact Option.filter_some_pos (decide_eq_true below)
  · exact unsigned

end NetworkTwin.Text
