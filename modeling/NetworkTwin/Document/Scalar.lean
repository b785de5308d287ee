import NetworkTwin.Decimal.Reading
import NetworkTwin.Document.Tree

/-!
What a scalar stands for. The forms are those of the core schema: `null` and `~`, `true` and
`false`, whole numbers in four bases, decimal numbers, and the words for infinity and for what is
not a number. A typed reading asks for one kind; a free reading takes the first kind that fits.
-/

namespace NetworkTwin.Scalar

def coreTag (kind : String) : String := "tag:yaml.org,2002:" ++ kind

/-- Whether a text is a form of nothing, the empty text not among them. -/
def isNullForm (text : String) : Bool := ["null", "Null", "NULL", "~"].contains text

def boolForm? (text : String) : Option Bool :=
  if ["true", "True", "TRUE"].contains text then some true
  else if ["false", "False", "FALSE"].contains text then some false
  else none

/-- A text without one plus sign at its front. A second sign is not allowed. -/
def withoutPlus? (text : List Char) : Option (List Char) :=
  match text with
  | '+' :: '+' :: _ => none
  | '+' :: '-' :: _ => none
  | '+' :: rest => some rest
  | _ => some text

/-- Several digits with a zero in front, after at most one sign: such a text is no number of any
kind to a free reading, and no whole number to any. -/
def hasLeadingZero (text : List Char) : Bool :=
  let digits := match text with
    | '+' :: rest => rest
    | '-' :: rest => rest
    | _ => text
  match digits with
  | '0' :: second :: rest => (second :: rest).all Text.isDigit
  | _ => false

/-- The digits of a number in a base other than ten, told by a letter after a zero. -/
def basedDigits? : List Char → Option Nat
  | '0' :: 'x' :: digits => Text.digits? 16 digits
  | '0' :: 'o' :: digits => Text.digits? 8 digits
  | '0' :: 'b' :: digits => Text.digits? 2 digits
  | _ => none

def naturalForm? (bound : Nat) (text : String) : Option Nat := do
  let unsigned ← withoutPlus? text.toList
  match (basedDigits? unsigned).filter (· < bound) with
  | some value => some value
  | none =>
      if hasLeadingZero text.toList then none
      else (Text.digits? 10 unsigned).filter (· < bound)

def negativeForm? (bound : Nat) (text : String) : Option Nat :=
  match text.toList with
  | '-' :: digits =>
      match (basedDigits? digits).filter (· ≤ bound) with
      | some value => some value
      | none =>
          if hasLeadingZero digits then none
          else (Text.digits? 10 digits).filter (· ≤ bound)
  | _ => none

/-- A double: the words for infinity and for what is not a number, or a decimal numeral with at
least one digit. Leading zeros are allowed here. -/
def realForm? (text : String) : Option Float := do
  let unsigned ← withoutPlus? text.toList
  let word := String.ofList unsigned
  if [".inf", ".Inf", ".INF"].contains word then some (1.0 / 0.0)
  else if ["-.inf", "-.Inf", "-.INF"].contains text then some (-1.0 / 0.0)
  else if [".nan", ".NaN", ".NAN"].contains text then some (0.0 / 0.0)
  else
    let (negative, digits) := match unsigned with
      | '-' :: rest => (true, rest)
      | rest => (false, rest)
    let parts ← Decimal.Parts.cut? negative digits
    if parts.whole.isEmpty && (parts.fraction.getD []).isEmpty then none else parts.nearest?

/-- Whether a typed reading may look for a kind of the core schema in the scalar: it is plain, or a
literal block under the tag of that kind. -/
def mayBe (scalar : Scalar) (kind : String) : Bool :=
  match scalar.style with
  | .plain => true
  | .literal => scalar.tag == some (coreTag kind)
  | .quoted => false

/-- The number of whole numbers that 128 bits hold. -/
def wideSize : Nat := UInt64.size * UInt64.size

/-- What a plain scalar without a tag stands for; nothing if it is a whole number too large for 64
bits but not for 128. -/
def plainValue? (text : String) : Option Value :=
  if text.isEmpty || isNullForm text then some .null
  else match boolForm? text with
    | some value => some (.bool value)
    | none =>
      match naturalForm? UInt64.size text, negativeForm? (UInt64.size / 2) text with
      | some value, _ => some (.number (.whole (Int.ofNat value)))
      | none, some value => some (.number (.whole (-Int.ofNat value)))
      | none, none =>
          if (naturalForm? wideSize text).isSome then none
          else if (negativeForm? (wideSize / 2) text).isSome then none
          else if hasLeadingZero text.toList then some (.text text)
          else match realForm? text with
            | some value => some (Value.real value)
            | none => some (.text text)

def wholeValue? (text : String) : Option Value :=
  match naturalForm? UInt64.size text, negativeForm? (UInt64.size / 2) text with
  | some value, _ => some (.number (.whole (Int.ofNat value)))
  | none, some value => some (.number (.whole (-Int.ofNat value)))
  | none, none => none

/-- What a scalar stands for in free-form data, if anything. A tag of the core schema asks for its
kind; another tag of the core schema leaves a text; a tag of the document's own stands for nothing
here. -/
def value? (scalar : Scalar) : Option Value :=
  match scalar.tag with
  | none =>
      if scalar.style = .plain then plainValue? scalar.text else some (.text scalar.text)
  | some tag =>
      if tag.startsWith "!" then none
      else if tag = coreTag "bool" then (boolForm? scalar.text).map .bool
      else if tag = coreTag "int" then wholeValue? scalar.text
      else if tag = coreTag "float" then (realForm? scalar.text).map Value.real
      else if tag = coreTag "null" then (if isNullForm scalar.text then some .null else none)
      else some (.text scalar.text)

end NetworkTwin.Scalar
