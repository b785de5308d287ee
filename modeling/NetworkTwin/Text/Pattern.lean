import NetworkTwin.Text.LetterCase

/-!
Patterns over texts. A pattern is tried at the front of a text, and whatever it does not need is
left over for what comes after it. Where a pattern can match in several ways, the ways are tried in
a fixed order until the whole leads somewhere: keywords in the order in which they are listed, a
stretch of characters with as many of them as there are and then with fewer and fewer, and an
optional part first with it and then without it.
-/

namespace NetworkTwin.Text

/-- Patterns that capture parts of a text under labels. -/
inductive Pattern (Label : Type) where
  | oneOf (keywords : List String)
  | stretch (test : Char → Bool)
  | capture (label : Label) (inner : Pattern Label)
  | sequence (first second : Pattern Label)
  | optional (inner : Pattern Label)

/-- The parts of a text that have been captured, the latest first. -/
abbrev Captures (Label : Type) := List (Label × List Char)

/-- What is left of a text after the letters of a keyword, in upper or lower case. -/
def afterKeyword? : List Char → List Char → Option (List Char)
  | [], text => some text
  | _ :: _, [] => none
  | letter :: letters, c :: rest =>
      if foldLetter c = letter then afterKeyword? letters rest else none

/-- Goes on after as many characters that pass the test as possible, but at least one. -/
def afterStretch {α : Type} (test : Char → Bool) (next : List Char → Option α) :
    List Char → Option α
  | [] => none
  | c :: rest =>
      if test c then (afterStretch test next rest).orElse fun _ => next rest else none

namespace Pattern

variable {Label α : Type}

instance : Append (Pattern Label) := ⟨sequence⟩

/-- Tries the pattern at the front of a text and goes on with what is left. -/
def attempt (next : Captures Label → List Char → Option α) :
    Pattern Label → Captures Label → List Char → Option α
  | oneOf keywords, captures, text =>
      keywords.findSome? fun keyword => (afterKeyword? keyword.toList text).bind (next captures)
  | stretch test, captures, text => afterStretch test (next captures) text
  | capture label inner, captures, text =>
      inner.attempt (fun captures rest =>
        next ((label, text.take (text.length - rest.length)) :: captures) rest) captures text
  | sequence first second, captures, text => first.attempt (second.attempt next) captures text
  | optional inner, captures, text =>
      (inner.attempt next captures text).orElse fun _ => next captures text

theorem attempt_append (next : Captures Label → List Char → Option α)
    (first second : Pattern Label) :
    (first ++ second).attempt next = first.attempt (second.attempt next) := rfl

/-- What the pattern captures at the front of a text, if it matches there. -/
def captures? (pattern : Pattern Label) (text : List Char) : Option (Captures Label) :=
  pattern.attempt (fun captures _ => some captures) [] text

end Pattern

end NetworkTwin.Text
