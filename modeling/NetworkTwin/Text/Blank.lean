/-!
Blank characters, and the cuts of a text that depend on them: trimming, words and lines. Texts are
lists of characters here, so that each cut is a structural recursion.
-/

namespace NetworkTwin.Text

/-- The characters with the Unicode property White_Space. -/
def isBlank (c : Char) : Bool :=
  let point := c.toNat
  (0x09 ≤ point && point ≤ 0x0D) || point == 0x20 || point == 0x85 || point == 0xA0 ||
    point == 0x1680 || (0x2000 ≤ point && point ≤ 0x200A) || point == 0x2028 || point == 0x2029 ||
    point == 0x202F || point == 0x205F || point == 0x3000

def isWordCharacter (c : Char) : Bool := !isBlank c

def trimFront (text : List Char) : List Char := text.dropWhile isBlank

def trimBack (text : List Char) : List Char := (trimFront text.reverse).reverse

def trim (text : List Char) : List Char := trimBack (trimFront text)

/-- Whether a word cannot go on into the text: it is over, or a blank comes first. -/
def breaksWord : List Char → Bool
  | [] => true
  | c :: _ => isBlank c

/-- The words of a text: its longest runs without blanks, in order. -/
def words : List Char → List (List Char)
  | [] => []
  | c :: rest =>
      if isBlank c then words rest
      else if breaksWord rest then [c] :: words rest
      else match words rest with
        | [] => [[c]]
        | word :: more => (c :: word) :: more

/-- The lines of a text. Each line feed ends one, and what follows the last line feed is a line
only if it is not empty. A carriage return stays with its line. -/
def lines : List Char → List (List Char)
  | [] => []
  | c :: rest =>
      if c = '\n' then [] :: lines rest
      else match lines rest with
        | [] => [[c]]
        | line :: more => (c :: line) :: more

/-- The parts of a text between the occurrences of a separator: one more than those. -/
def splitAt (separator : Char) : List Char → List (List Char)
  | [] => [[]]
  | c :: rest =>
      if c = separator then [] :: splitAt separator rest
      else match splitAt separator rest with
        | [] => [[c]]
        | part :: more => (c :: part) :: more

def joinWith (separator : String) : List String → String
  | [] => ""
  | [text] => text
  | text :: more => text ++ separator ++ joinWith separator more

@[simp] theorem words_nil : words [] = [] := rfl

theorem words_cons_blank {c : Char} (blank : isBlank c = true) (rest : List Char) :
    words (c :: rest) = words rest := by
  simp [words, blank]

end NetworkTwin.Text
