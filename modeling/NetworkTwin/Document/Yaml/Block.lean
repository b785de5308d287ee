import NetworkTwin.Document.Yaml.Character

/-!
Block scalars: indented texts over several lines, taken literally or folded. The first line with
text sets the indentation, unless the header does. The header also says what becomes of the line
breaks at the end.
-/

namespace NetworkTwin.Yaml

/-- What becomes of the line breaks at the end of a block scalar: all go, one stays, all stay. -/
inductive Chomping where
  | strip
  | clip
  | keep
deriving DecidableEq, Repr

/-- The header of a block scalar; an indentation of zero stands for none. -/
structure BlockHeader where
  chomping : Chomping
  indentation : Nat
deriving DecidableEq, Repr

def chomping? : Char → Option Chomping
  | '+' => some .keep
  | '-' => some .strip
  | _ => none

def indentation? (c : Char) : Option Nat := (Text.digitValue? 10 c).filter (0 < ·)

/-- Reads the header after its first character: a sign and a digit in either order, each of which
may be missing. -/
def blockHeader? (cursor : Cursor) : Option (BlockHeader × Cursor) :=
  let digitAt (place : Cursor) : Option (Nat × Cursor) :=
    match place.rest with
    | c :: _ =>
        if Text.isDigit c then (indentation? c).map fun digit => (digit, place.skip 1)
        else some (0, place)
    | [] => some (0, place)
  match cursor.rest.head?.bind chomping? with
  | some chomping => do
      let (digit, after) ← digitAt (cursor.skip 1)
      some (⟨chomping, digit⟩, ← after.endLine?)
  | none => do
      let (digit, after) ← digitAt cursor
      match if 0 < digit then after.rest.head?.bind chomping? else none with
      | some chomping => some (⟨chomping, digit⟩, ← (after.skip 1).endLine?)
      | none => some (⟨.clip, digit⟩, ← after.endLine?)

/-- A block scalar as read so far: its indentation, zero if it is not known yet; the widest margin
seen; the text, last character first; the break after the last line with text; the breaks after
that, last first; and whether the last line with text starts with a blank. -/
structure BlockText where
  indentation : Nat
  widest : Nat
  text : List Char
  lineBreak : Option Char
  breaks : List Char
  afterBlank : Bool

namespace BlockText

def start (indentation : Nat) : BlockText := ⟨indentation, 0, [], none, [], false⟩

def isMargin (block : BlockText) (column : Nat) : Bool :=
  block.indentation = 0 || column < block.indentation

/-- Sets the indentation, if it is not known, to the widest margin up to a column, but at least to
a minimum. -/
def settle (block : BlockText) (minimum column : Nat) : BlockText :=
  if block.indentation = 0 then
    { block with indentation := max (max block.widest column) (max minimum 1) }
  else block

def emptyLine (block : BlockText) (column : Nat) (c : Char) : BlockText :=
  { block with widest := max block.widest column, breaks := c :: block.breaks }

/-- The text up to a line that starts with a character. In a folded scalar a single line feed
between lines without blanks at their front is a space, and of several the first is dropped. -/
def joined (block : BlockText) (isLiteral : Bool) (c : Char) : List Char :=
  if !isLiteral && block.lineBreak = some '\n' && !block.afterBlank && !isBlank c then
    (if block.breaks.isEmpty then [' '] else block.breaks) ++ block.text
  else block.breaks ++ block.lineBreak.toList ++ block.text

def startLine (block : BlockText) (isLiteral : Bool) (c : Char) : BlockText :=
  { block with
    text := c :: block.joined isLiteral c
    lineBreak := none
    breaks := []
    afterBlank := isBlank c }

def push (block : BlockText) (c : Char) : BlockText := { block with text := c :: block.text }

def endLine (block : BlockText) (c : Char) : BlockText := { block with lineBreak := some c }

def finish (block : BlockText) (chomping : Chomping) : String :=
  let tail := match chomping with
    | .strip => []
    | .clip => block.lineBreak.toList
    | .keep => block.breaks ++ block.lineBreak.toList
  String.ofList (tail ++ block.text).reverse

end BlockText

/-- Reads the lines of a block scalar. It ends before the first character that is indented less. No
tab may stand in the margin. -/
def blockText? (isLiteral : Bool) (minimum : Nat) (inLine : Bool) (block : BlockText)
    (position : Position) : List Char → Option (BlockText × Cursor)
  | [] => some (block, ⟨[], position⟩)
  | c :: rest =>
      let next := position.after c
      if inLine then
        if isBreak c then blockText? isLiteral minimum false (block.endLine c) next rest
        else blockText? isLiteral minimum true (block.push c) next rest
      else if block.isMargin position.column && c = ' ' then
        blockText? isLiteral minimum false block next rest
      else if block.isMargin position.column && c = '\t' then none
      else if isBreak c then
        blockText? isLiteral minimum false (block.emptyLine position.column c) next rest
      else
        let settled := block.settle minimum position.column
        if position.column = settled.indentation then
          blockText? isLiteral minimum true (settled.startLine isLiteral c) next rest
        else some (settled, ⟨c :: rest, position⟩)

/-- Reads a block scalar after its first character. The margin is the least indentation that it may
have; an indentation in the header is counted from the collection around it. -/
def block? (isLiteral : Bool) (margin : Nat) (cursor : Cursor) : Option (String × Cursor) := do
  let (header, body) ← blockHeader? cursor
  let indentation := if header.indentation = 0 then 0 else margin - 1 + header.indentation
  let (block, after) ←
    blockText? isLiteral margin false (.start indentation) body.position body.rest
  some (block.finish header.chomping, after)

end NetworkTwin.Yaml
