import NetworkTwin.Text.Numeral

/-!
Characters of the indentation format, and places in a text. A line feed is the one ordinary line
break: a text is prepared so that no other spelling of it is left. The two Unicode separators are
breaks as well, and keep their identity.
-/

namespace NetworkTwin.Yaml

def isBlank (c : Char) : Bool := c == ' ' || c == '\t'

def isBreak (c : Char) : Bool := c == '\n' || c.toNat == 0x2028 || c.toNat == 0x2029

/-- Whether a character may stand in a name: a letter or a digit of ASCII, a hyphen, an
underscore. -/
def isNamePart (c : Char) : Bool :=
  Text.isDigit c || ('a' ≤ c && c ≤ 'z') || ('A' ≤ c && c ≤ 'Z') || c == '-' || c == '_'

/-- Whether a character may stand in a document at all: control characters may not, nor may a byte
order mark. -/
def isAllowed (c : Char) : Bool :=
  let point := c.toNat
  point == 0x09 || point == 0x0A || point == 0x0D || (0x20 ≤ point && point ≤ 0x7E) ||
    point == 0x85 || (0xA0 ≤ point && point ≤ 0xD7FF) ||
    (0xE000 ≤ point && point ≤ 0xFFFD && point != 0xFEFF) || 0x10000 ≤ point

/-- The text with a line feed for each ordinary line break. -/
def unifyBreaks : List Char → List Char
  | [] => []
  | '\r' :: '\n' :: rest => '\n' :: unifyBreaks rest
  | c :: rest =>
      (if c = '\r' then '\n' else if c.toNat = 0x85 then '\n' else c) :: unifyBreaks rest

/-- The text as it is read: a byte order mark at its front is dropped. Nothing if a character is
not allowed. -/
def prepare? (text : List Char) : Option (List Char) :=
  let body := match text with
    | c :: rest => if c.toNat = 0xFEFF then rest else text
    | [] => []
  if body.all isAllowed then some (unifyBreaks body) else none

/-- Whether a text is over, or goes on with a blank or a line break. -/
def endsWord : List Char → Bool
  | [] => true
  | c :: _ => isBlank c || isBreak c

def startsMarker : List Char → Bool
  | '-' :: '-' :: '-' :: rest => endsWord rest
  | '.' :: '.' :: '.' :: rest => endsWord rest
  | _ => false

/-- A place in a text: the line, the column in it, and the number of characters before. -/
structure Position where
  line : Nat
  column : Nat
  index : Nat
deriving DecidableEq, Repr

def Position.start : Position := ⟨0, 0, 0⟩

def Position.after (position : Position) (c : Char) : Position :=
  if isBreak c then ⟨position.line + 1, 0, position.index + 1⟩
  else ⟨position.line, position.column + 1, position.index + 1⟩

/-- What is left of a text, and its place. -/
structure Cursor where
  rest : List Char
  position : Position
deriving DecidableEq, Repr

namespace Cursor

def skip : Nat → Cursor → Cursor
  | 0, cursor => cursor
  | _ + 1, ⟨[], position⟩ => ⟨[], position⟩
  | count + 1, ⟨c :: rest, position⟩ => skip count ⟨rest, position.after c⟩

def takeWhile (cursor : Cursor) (test : Char → Bool) : List Char × Cursor :=
  let taken := cursor.rest.takeWhile test
  (taken, cursor.skip taken.length)

def skipWhile (cursor : Cursor) (test : Char → Bool) : Cursor := (cursor.takeWhile test).2

def expect? (cursor : Cursor) (c : Char) : Option Cursor :=
  if cursor.rest.head? = some c then some (cursor.skip 1) else none

/-- The cursor after the rest of a line on which nothing but a comment may stand. -/
def endLine? (cursor : Cursor) : Option Cursor :=
  let atEnd := cursor.skipWhile isBlank
  let pastComment := if atEnd.rest.head? = some '#' then atEnd.skipWhile fun c => !isBreak c
    else atEnd
  match pastComment.rest with
  | [] => some pastComment
  | c :: _ => if isBreak c then some (pastComment.skip 1) else none

end Cursor

end NetworkTwin.Yaml
