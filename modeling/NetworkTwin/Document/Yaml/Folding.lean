import NetworkTwin.Document.Yaml.Character

/-!
Texts over several lines without indentation: scalars in quotes and plain scalars. A single line
break inside one is read as a space, further ones stay, and blanks around a break are dropped. Each
reader takes the text character by character.
-/

namespace NetworkTwin.Yaml

/-- The first line break of a gap, and those that follow it, last first. -/
structure Gap where
  first : Option Char
  later : List Char

/-- A scalar as read so far, last character first, with what waits for the next character: blanks
on the same line, or a gap of line breaks. -/
structure Folding where
  text : List Char
  blanks : List Char
  gap : Option Gap

namespace Folding

def start : Folding := ⟨[], [], none⟩

def isWaiting (folding : Folding) : Bool := !folding.blanks.isEmpty || folding.gap.isSome

def blank (folding : Folding) (c : Char) : Folding :=
  match folding.gap with
  | some _ => folding
  | none => { folding with blanks := c :: folding.blanks }

def lineBreak (folding : Folding) (c : Char) : Folding :=
  match folding.gap with
  | some gap => { folding with gap := some { gap with later := c :: gap.later } }
  | none => { folding with blanks := [], gap := some ⟨some c, []⟩ }

/-- The text with what waits. A gap that starts with a line feed is a space if it is the only
break, and else loses that break. -/
def settled (folding : Folding) : List Char :=
  match folding.gap with
  | none => folding.blanks ++ folding.text
  | some gap =>
      if gap.first = some '\n' then
        (if gap.later.isEmpty then [' '] else gap.later) ++ folding.text
      else gap.later ++ gap.first.toList ++ folding.text

def push (folding : Folding) (c : Char) : Folding := ⟨c :: folding.settled, [], none⟩

def escapedBreak (folding : Folding) : Folding := ⟨folding.settled, [], some ⟨none, []⟩⟩

end Folding

def escape? : Char → Option Char
  | '0' => some (Char.ofNat 0)
  | 'a' => some (Char.ofNat 7)
  | 'b' => some (Char.ofNat 8)
  | 't' => some '\t'
  | '\t' => some '\t'
  | 'n' => some '\n'
  | 'v' => some (Char.ofNat 0x0B)
  | 'f' => some (Char.ofNat 0x0C)
  | 'r' => some '\r'
  | 'e' => some (Char.ofNat 0x1B)
  | ' ' => some ' '
  | '"' => some '"'
  | '\'' => some '\''
  | '/' => some '/'
  | '\\' => some '\\'
  | 'N' => some (Char.ofNat 0x85)
  | '_' => some (Char.ofNat 0xA0)
  | 'L' => some (Char.ofNat 0x2028)
  | 'P' => some (Char.ofNat 0x2029)
  | _ => none

def escapeWidth? : Char → Option Nat
  | 'x' => some 2
  | 'u' => some 4
  | 'U' => some 8
  | _ => none

def character? (point : Nat) : Option Char :=
  if point.isValidChar then some (Char.ofNat point) else none

inductive QuotedMode where
  | text
  | closing
  | escape
  | digits (left value : Nat)

/-- Reads a scalar in double or single quotes from the character after the opening quote. A marker
between documents may not stand in it at the start of a line. -/
def quoted? (isDouble : Bool) (mode : QuotedMode) (folding : Folding) (position : Position) :
    List Char → Option (String × Cursor)
  | [] =>
      match mode with
      | .closing => some (String.ofList folding.settled.reverse, ⟨[], position⟩)
      | _ => none
  | c :: rest =>
      let next := position.after c
      match mode with
      | .text =>
          if isBlank c then quoted? isDouble .text (folding.blank c) next rest
          else if isBreak c then quoted? isDouble .text (folding.lineBreak c) next rest
          else if position.column = 0 && startsMarker (c :: rest) then none
          else if isDouble && c = '"' then
            some (String.ofList folding.settled.reverse, ⟨rest, next⟩)
          else if isDouble && c = '\\' then quoted? isDouble .escape folding next rest
          else if !isDouble && c = '\'' then quoted? isDouble .closing folding next rest
          else quoted? isDouble .text (folding.push c) next rest
      | .closing =>
          if c = '\'' then quoted? isDouble .text (folding.push c) next rest
          else some (String.ofList folding.settled.reverse, ⟨c :: rest, position⟩)
      | .escape =>
          if isBreak c then quoted? isDouble .text folding.escapedBreak next rest
          else match escapeWidth? c with
            | some width => quoted? isDouble (.digits width 0) folding next rest
            | none =>
                match escape? c with
                | some meant => quoted? isDouble .text (folding.push meant) next rest
                | none => none
      | .digits left value =>
          match Text.digitValue? 16 c with
          | none => none
          | some digit =>
              let grown := value * 16 + digit
              if 1 < left then quoted? isDouble (.digits (left - 1) grown) folding next rest
              else match character? grown with
                | some meant => quoted? isDouble .text (folding.push meant) next rest
                | none => none

/-- A plain scalar: its text, whether it ends after a line break, and the cursor after it. -/
structure PlainScalar where
  text : String
  endsLine : Bool
  cursor : Cursor

/-- The plain scalar that ends at a place. What waits is not part of it. -/
def Folding.finish (folding : Folding) (rest : List Char) (position : Position) : PlainScalar :=
  ⟨String.ofList folding.text.reverse, folding.gap.isSome, ⟨rest, position⟩⟩

def isFlowMark (c : Char) : Bool :=
  c == ',' || c == '[' || c == ']' || c == '{' || c == '}'

/-- Whether a plain scalar ends before a text: at a colon before a blank, and in brackets at a mark
of the collection. -/
def endsPlain (inFlow : Bool) : List Char → Bool
  | [] => true
  | c :: rest => (c == ':' && endsWord rest) || (inFlow && isFlowMark c)

/-- Whether a colon stands before a mark of a collection in brackets, where it means nothing. -/
def isStrayColon : List Char → Bool
  | ':' :: mark :: _ => isFlowMark mark || mark == '?'
  | _ => false

/-- Reads a plain scalar. On its further lines outside of brackets it has to be indented by a
margin. -/
def plain? (inFlow : Bool) (margin : Nat) (folding : Folding) (position : Position) :
    List Char → Option PlainScalar
  | [] => some (folding.finish [] position)
  | c :: rest =>
      let next := position.after c
      let isShort := folding.gap.isSome && position.column < margin
      if isBlank c then
        if isShort && c = '\t' then none
        else plain? inFlow margin (folding.blank c) next rest
      else if isBreak c then plain? inFlow margin (folding.lineBreak c) next rest
      else if (isShort && !inFlow) || (position.column = 0 && startsMarker (c :: rest)) ||
          (c = '#' && folding.isWaiting) then some (folding.finish (c :: rest) position)
      else if inFlow && isStrayColon (c :: rest) then none
      else if endsPlain inFlow (c :: rest) then some (folding.finish (c :: rest) position)
      else plain? inFlow margin (folding.push c) next rest

end NetworkTwin.Yaml
