import NetworkTwin.Proofs.Policy.Matching
import NetworkTwin.Proofs.Text.Lines
import NetworkTwin.Proofs.Text.Numerals

/-!
Port filters against their texts. A token spans one port if it is the numeral of it, and the ports
between two if it is their numerals with a hyphen between them; blanks around a numeral do not
count. The bounds of a filter are what its token spans, whether the filter keeps the token or has
read it already, and a token that spans nothing is in error and lets nothing pass. A range that
starts above its end has bounds like any other, but no port lies within.
-/

namespace NetworkTwin.PortFilter

/-- Whether a text names a port: with the blanks around it taken away, it is a numeral of the port.
-/
def Names (text : List Char) (port : UInt16) : Prop :=
  Text.IsNumeral (Text.trim text) port.toNat

/-- The first and the last port of what a token stands for, by its text. -/
inductive Spans (token : String) : UInt16 → UInt16 → Prop
  | single {port : UInt16} : Names token.toList port → Spans token port port
  | between {first last : List Char} {low high : UInt16} :
      token.toList = first ++ '-' :: last → '-' ∉ first → '-' ∉ last →
        Names first low → Names last high → Spans token low high

/-- What is wrong with a token. The end of a range is looked at only if its start is a port. -/
inductive Mistaken (token : String) : PortFlaw → Prop
  | form : (∀ first last, token.toList = first ++ '-' :: last → '-' ∈ first ∨ '-' ∈ last) →
      (∀ port, ¬ Names token.toList port) → Mistaken token .form
  | start {first last : List Char} :
      token.toList = first ++ '-' :: last → '-' ∉ first → '-' ∉ last →
        (∀ port, ¬ Names first port) → Mistaken token .start
  | finish {first last : List Char} {low : UInt16} :
      token.toList = first ++ '-' :: last → '-' ∉ first → '-' ∉ last →
        Names first low → (∀ port, ¬ Names last port) → Mistaken token .finish

theorem port_eq_some_iff {text : List Char} {port : UInt16} :
    port? text = some port ↔ Text.IsNumeral text port.toNat := by
  unfold port?
  rw [Option.map_eq_some_iff]
  constructor
  · rintro ⟨value, read, same⟩
    obtain ⟨numeral, below⟩ := Text.natural_below_eq_some_iff.1 read
    rw [← same, UInt16.toNat_ofNat_of_lt' below]
    exact numeral
  · intro numeral
    have below : port.toNat < UInt16.size := port.toNat_lt_size
    exact ⟨port.toNat, Text.natural_below_eq_some_iff.2 ⟨numeral, below⟩, UInt16.ofNat_toNat⟩

theorem names_iff {text : List Char} {port : UInt16} :
    Names text port ↔ port? (Text.trim text) = some port :=
  port_eq_some_iff.symm

theorem names_nothing_iff {text : List Char} :
    (∀ port, ¬ Names text port) ↔ port? (Text.trim text) = none := by
  simp only [names_iff, Option.eq_none_iff_forall_ne_some, ne_eq]

section Characters

variable {text : List Char} {value : Nat} (numeral : Text.IsNumeral text value)

include numeral

theorem numeral_solid : ∀ c ∈ text, Text.isBlank c = false := by
  intro c member
  rcases numeral.characters c member with digit | rfl
  · exact Text.is_blank_of_digit digit
  · decide

theorem hyphen_not_mem_numeral : '-' ∉ text := by
  intro member
  rcases numeral.characters '-' member with digit | plus
  · revert digit
    decide
  · revert plus
    decide

end Characters

/-- A hyphen is no blank, so it is still there when the blanks around a text are taken away. -/
theorem Names.hyphen_not_mem {text : List Char} {port : UInt16} (names : Names text port) :
    '-' ∉ text := by
  intro member
  exact hyphen_not_mem_numeral names (Text.mem_trim_of_mem (by decide) member)

section Bounds

variable {token : String}

theorem bounds_of_hyphen {first last : List Char}
    (whole : token.toList = first ++ '-' :: last) (notBefore : '-' ∉ first)
    (notAfter : '-' ∉ last) :
    (range token).bounds =
      match port? (Text.trim first), port? (Text.trim last) with
      | some low, some high => .ok (low, high)
      | none, _ => .error (.invalidPort token .start)
      | some _, none => .error (.invalidPort token .finish) := by
  have cut := Text.split_at_eq_pair_iff.2 ⟨whole, notBefore, notAfter⟩
  cases start : port? (Text.trim first) with
  | none => simp [bounds, cut, start]
  | some low => cases finish : port? (Text.trim last) <;> simp [bounds, cut, start, finish]

theorem bounds_of_no_hyphen
    (uncut : ∀ first last, token.toList = first ++ '-' :: last → '-' ∈ first ∨ '-' ∈ last) :
    (range token).bounds =
      match port? (Text.trim token.toList) with
      | some port => .ok (port, port)
      | none => .error (.invalidPort token .form) := by
  simp only [bounds]
  split
  · rename_i first last cut
    obtain ⟨whole, notBefore, notAfter⟩ := Text.split_at_eq_pair_iff.1 cut
    exact absurd (uncut first last whole) (not_or.2 ⟨notBefore, notAfter⟩)
  · rfl

theorem bounds_of_spans {low high : UInt16} (spans : Spans token low high) :
    (range token).bounds = .ok (low, high) := by
  cases spans with
  | single names =>
      have uncut : ∀ first last, token.toList = first ++ '-' :: last →
          '-' ∈ first ∨ '-' ∈ last := by
        intro first last whole
        apply absurd _ names.hyphen_not_mem
        simp [whole]
      rw [bounds_of_no_hyphen uncut, names_iff.1 names]
  | between whole notBefore notAfter namesLow namesHigh =>
      rw [bounds_of_hyphen whole notBefore notAfter, names_iff.1 namesLow, names_iff.1 namesHigh]

theorem bounds_of_mistaken {flaw : PortFlaw} (mistaken : Mistaken token flaw) :
    (range token).bounds = .error (.invalidPort token flaw) := by
  cases mistaken with
  | form uncut namesNone =>
      rw [bounds_of_no_hyphen uncut, names_nothing_iff.1 namesNone]
  | start whole notBefore notAfter namesNone =>
      rw [bounds_of_hyphen whole notBefore notAfter, names_nothing_iff.1 namesNone]
  | finish whole notBefore notAfter namesLow namesNone =>
      rw [bounds_of_hyphen whole notBefore notAfter, names_iff.1 namesLow,
        names_nothing_iff.1 namesNone]

theorem spans_or_mistaken (token : String) :
    (∃ low high, Spans token low high) ∨ ∃ flaw, Mistaken token flaw := by
  by_cases cut : ∃ first last, token.toList = first ++ '-' :: last ∧ '-' ∉ first ∧ '-' ∉ last
  · obtain ⟨first, last, whole, notBefore, notAfter⟩ := cut
    cases start : port? (Text.trim first) with
    | none => exact Or.inr ⟨_, .start whole notBefore notAfter (names_nothing_iff.2 start)⟩
    | some low =>
        have namesLow := names_iff.2 start
        cases finish : port? (Text.trim last) with
        | none =>
            exact Or.inr ⟨_, .finish whole notBefore notAfter namesLow (names_nothing_iff.2 finish)⟩
        | some high =>
            exact Or.inl ⟨_, _, .between whole notBefore notAfter namesLow (names_iff.2 finish)⟩
  · cases number : port? (Text.trim token.toList) with
    | none =>
        have uncut : ∀ first last, token.toList = first ++ '-' :: last →
            '-' ∈ first ∨ '-' ∈ last := by
          intro first last whole
          by_contra neither
          exact cut ⟨first, last, whole, not_or.1 neither⟩
        exact Or.inr ⟨_, .form uncut (names_nothing_iff.2 number)⟩
    | some port => exact Or.inl ⟨_, _, .single (names_iff.2 number)⟩

theorem bounds_eq_ok_iff {low high : UInt16} :
    (range token).bounds = .ok (low, high) ↔ Spans token low high := by
  constructor
  · intro read
    rcases spans_or_mistaken token with ⟨first, last, spans⟩ | ⟨flaw, mistaken⟩
    · rw [bounds_of_spans spans] at read
      cases read
      exact spans
    · rw [bounds_of_mistaken mistaken] at read
      cases read
  · exact bounds_of_spans

theorem bounds_eq_error_iff {error : PolicyError} :
    (range token).bounds = .error error ↔
      ∃ flaw, error = .invalidPort token flaw ∧ Mistaken token flaw := by
  constructor
  · intro failed
    rcases spans_or_mistaken token with ⟨first, last, spans⟩ | ⟨flaw, mistaken⟩
    · rw [bounds_of_spans spans] at failed
      cases failed
    · rw [bounds_of_mistaken mistaken] at failed
      cases failed
      exact ⟨flaw, rfl, mistaken⟩
  · rintro ⟨flaw, rfl, mistaken⟩
    exact bounds_of_mistaken mistaken

end Bounds

theorem invalid_port_of_bounds {filter : PortFilter} {error : PolicyError}
    (failed : filter.bounds = .error error) : ∃ token flaw, error = .invalidPort token flaw := by
  cases filter with
  | number port => cases failed
  | range token =>
      obtain ⟨flaw, same, _⟩ := bounds_eq_error_iff.1 failed
      exact ⟨token, flaw, same⟩

/-- A number is read from a token only where its text has no blanks, which is where the token as it
stands spans the number. -/
theorem bounds_of_token (token : String) : (ofToken token).bounds = (range token).bounds := by
  unfold ofToken
  cases read : port? token.toList with
  | none => rfl
  | some port =>
      have numeral := port_eq_some_iff.1 read
      have names : Names token.toList port := by
        unfold Names
        rw [Text.trim_eq_self (numeral_solid numeral)]
        exact numeral
      rw [bounds_of_spans (.single names)]
      rfl

theorem admits_congr {filter other : PortFilter} (same : filter.bounds = other.bounds)
    (port : UInt16) : filter.admits port = other.admits port := by
  unfold admits
  rw [same]

theorem admits_range_iff {token : String} {port : UInt16} :
    (range token).admits port = true ↔
      ∃ low high, Spans token low high ∧ low ≤ port ∧ port ≤ high := by
  simp only [admits_iff, bounds_eq_ok_iff]

theorem admits_eq_false_of_error {filter : PortFilter} {error : PolicyError}
    (failed : filter.bounds = .error error) (port : UInt16) : filter.admits port = false := by
  unfold admits
  rw [failed]

/-- A filter means what the text of its token says, whether the token has been read as a number or
not. It lets a port pass if and only if the token is the port's numeral or the numerals of two ports
around it with one hyphen between them. Where the token has neither form, the bounds fail with an
error that names the token, and the filter lets nothing pass. -/
theorem tokens_mean_their_text (token : String) :
    (ofToken token).bounds = (range token).bounds ∧
    (∀ port, (ofToken token).admits port = (range token).admits port) ∧
    (∀ low high, (range token).bounds = .ok (low, high) ↔ Spans token low high) ∧
    (∀ port, (range token).admits port = true ↔
      Names token.toList port ∨
        ∃ first last low high, token.toList = first ++ '-' :: last ∧ '-' ∉ first ∧ '-' ∉ last ∧
          Names first low ∧ Names last high ∧ low ≤ port ∧ port ≤ high) ∧
    ((∃ low high, Spans token low high) ∨
      ∃ flaw, Mistaken token flaw ∧ (range token).bounds = .error (.invalidPort token flaw) ∧
        ∀ port, (range token).admits port = false) := by
  have same := bounds_of_token token
  refine ⟨same, admits_congr same, fun low high => bounds_eq_ok_iff, ?_, ?_⟩
  · intro port
    rw [admits_range_iff]
    constructor
    · rintro ⟨low, high, spans, least, greatest⟩
      cases spans with
      | single names =>
          have isPort := UInt16.le_antisymm least greatest
          rw [← isPort]
          exact Or.inl names
      | between whole notBefore notAfter namesLow namesHigh =>
          exact Or.inr ⟨_, _, low, high, whole, notBefore, notAfter, namesLow, namesHigh, least,
            greatest⟩
    · rintro (names | ⟨first, last, low, high, whole, notBefore, notAfter, namesLow, namesHigh,
        within⟩)
      · exact ⟨port, port, .single names, UInt16.le_refl port, UInt16.le_refl port⟩
      · exact ⟨low, high, .between whole notBefore notAfter namesLow namesHigh, within⟩
  · rcases spans_or_mistaken token with spans | ⟨flaw, mistaken⟩
    · exact Or.inl spans
    · have failed := bounds_of_mistaken mistaken
      exact Or.inr ⟨flaw, mistaken, failed, admits_eq_false_of_error failed⟩

example : (ofToken " +0080 -443").bounds = .ok (80, 443) := by decide

end NetworkTwin.PortFilter
