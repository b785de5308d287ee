import NetworkTwin.Text.CaseTable

/-!
Upper and lower case of texts, and the comparisons that disregard case. The full mappings follow
the Unicode character database, with the rule that a capital sigma at the end of a word becomes the
final sigma; the comparisons touch the Latin letters of ASCII only, except `foldsTo`.
-/

namespace NetworkTwin.Text

def lowerAscii (c : Char) : Char :=
  if 'A' ≤ c && c ≤ 'Z' then Char.ofNat (c.toNat + 32) else c

def lowerAsciiText (text : String) : String := String.ofList (text.toList.map lowerAscii)

/-- Whether two texts differ at most in the case of letters of ASCII. -/
def sameIgnoringCase (left right : String) : Bool :=
  left.toList.map lowerAscii == right.toList.map lowerAscii

theorem same_ignoring_case_iff {left right : String} :
    sameIgnoringCase left right = true ↔ lowerAsciiText left = lowerAsciiText right := by
  rw [sameIgnoringCase, beq_iff_eq, lowerAsciiText, lowerAsciiText, String.ofList_inj]

theorem same_ignoring_case_congr {left right : String} (same : sameIgnoringCase left right = true)
    (other : String) :
    sameIgnoringCase left other = sameIgnoringCase right other ∧
      sameIgnoringCase other left = sameIgnoringCase other right := by
  have lowered := beq_iff_eq.1 same
  simp only [sameIgnoringCase, lowered, and_self]

/-- The one form under which the letters of a keyword are compared: lower case, and the long s is
an s. These are all the characters that simple case folding sends to a Latin letter other than k. -/
def foldLetter (c : Char) : Char := if c = 'ſ' then 's' else lowerAscii c

/-- Whether a word is a keyword (given in lower case), whatever the case of its letters. -/
def foldsTo (word : List Char) (keyword : String) : Bool := word.map foldLetter == keyword.toList

private def mapByRuns (runs : List CaseRun) (point : Nat) : Nat :=
  match runs.find? (·.holds point) with
  | some run => (Int.ofNat point + run.distance).toNat
  | none => point

private def inRanges (ranges : List (Nat × Nat)) (c : Char) : Bool :=
  ranges.any fun range => range.1 ≤ c.toNat && c.toNat ≤ range.2

/-- Characters that are passed over when the context of a sigma is sought. -/
def isCaseIgnorable (c : Char) : Bool := inRanges caseIgnorableRanges c

def isCased (c : Char) : Bool := inRanges casedRanges c

def leadsToCased (context : List Char) : Bool :=
  match context.dropWhile isCaseIgnorable with
  | [] => false
  | c :: _ => isCased c

def lowerLetter (c : Char) : List Char :=
  if c = 'İ' then ['i', Char.ofNat 0x307]
  else [Char.ofNat (mapByRuns lowerRuns c.toNat)]

def upperLetter (c : Char) : List Char :=
  match upperExpansions.lookup c.toNat with
  | some points => points.map Char.ofNat
  | none => [Char.ofNat (mapByRuns upperRuns c.toNat)]

/-- The lower case of a text whose characters before it are `before`, nearest first. -/
def lowerAfter (before : List Char) : List Char → List Char
  | [] => []
  | c :: rest =>
      let form :=
        if c = 'Σ' then
          if leadsToCased before && !leadsToCased rest then ['ς'] else ['σ']
        else lowerLetter c
      form ++ lowerAfter (c :: before) rest

def toLower (text : String) : String := String.ofList (lowerAfter [] text.toList)

def toUpper (text : String) : String := String.ofList (text.toList.flatMap upperLetter)

end NetworkTwin.Text
