import NetworkTwin.Document.Tree
import NetworkTwin.Document.Yaml.Block
import NetworkTwin.Document.Yaml.Folding

/-!
Tokens of the indentation format. Indentation becomes tokens of its own: a collection starts when
its first item stands further to the right than what is around it, and ends when something stands
further to the left. Whether a scalar is a key shows only at the colon after it, so the lexer
remembers where a key may be, and puts the key token there later. Such a key ends on the line it
starts on, within 1024 characters.
-/

namespace NetworkTwin.Yaml

inductive Token where
  | version (major minor : Nat)
  | tagPrefix (handle uri : String)
  | documentStart
  | documentEnd
  | blockListStart
  | blockObjectStart
  | blockEnd
  | flowListStart
  | flowListEnd
  | flowObjectStart
  | flowObjectEnd
  | entry
  | separator
  | key
  | value
  | alias (name : String)
  | anchor (name : String)
  | tag (handle suffix : String)
  | scalar (text : String) (style : ScalarStyle)
  | streamEnd
deriving DecidableEq, Repr

/-! ### Tags, anchors and directives -/

/-- Whether a character may stand in a tag. In some places the marks of collections may, too. -/
def isTagPart (withMarks : Bool) (c : Char) : Bool :=
  isNamePart c || ";/?:@&=+$.%!~*'()".contains c || (withMarks && ",[]".contains c)

def tagBytes? : List Char → Option (List UInt8)
  | [] => some []
  | '%' :: high :: low :: rest => do
      let byte ← Text.digits? 16 [high, low]
      return UInt8.ofNat byte :: (← tagBytes? rest)
  | c :: rest => do
      if c = '%' then none else return UInt8.ofNat c.toNat :: (← tagBytes? rest)

def tagText? (withMarks : Bool) (cursor : Cursor) : Option (String × Cursor) := do
  let (taken, after) := cursor.takeWhile (isTagPart withMarks)
  let text ← String.fromUTF8? ⟨(← tagBytes? taken).toArray⟩
  some (text, after)

def verbatimTag? (cursor : Cursor) : Option (Token × Cursor) := do
  let (uri, after) ← tagText? true (cursor.skip 2)
  if uri.isEmpty then none else some (.tag "" uri, ← after.expect? '>')

def shorthandTag? (cursor : Cursor) : Option (Token × Cursor) := do
  let (word, after) := (cursor.skip 1).takeWhile isNamePart
  let name := String.ofList word
  match after.expect? '!' with
  | some pastHandle => do
      let (suffix, atEnd) ← tagText? false pastHandle
      if suffix.isEmpty then none else some (.tag ("!" ++ name ++ "!") suffix, atEnd)
  | none => do
      let (more, atEnd) ← tagText? false after
      let suffix := name ++ more
      some (if suffix.isEmpty then .tag "" "!" else .tag "!" suffix, atEnd)

/-- Reads a tag, which a blank has to follow, or a comma in brackets. -/
def tag? (inFlow : Bool) (cursor : Cursor) : Option (Token × Cursor) := do
  let (token, after) ←
    if (cursor.skip 1).rest.head? = some '<' then verbatimTag? cursor else shorthandTag? cursor
  if endsWord after.rest || (inFlow && after.rest.head? = some ',') then some (token, after)
  else none

def endsAnchor : List Char → Bool
  | [] => true
  | c :: rest => endsWord (c :: rest) || "?:,]\x7d%@`".contains c

def anchorName? (cursor : Cursor) : Option (String × Cursor) :=
  let (name, after) := (cursor.skip 1).takeWhile isNamePart
  if name.isEmpty || !endsAnchor after.rest then none else some (String.ofList name, after)

def versionNumber? (cursor : Cursor) : Option (Nat × Cursor) := do
  let (digits, after) := cursor.takeWhile Text.isDigit
  if digits.length ≤ 9 then some (← Text.digits? 10 digits, after) else none

def version? (cursor : Cursor) : Option (Token × Cursor) := do
  let (major, after) ← versionNumber? (cursor.skipWhile isBlank)
  let (minor, atEnd) ← versionNumber? (← after.expect? '.')
  some (.version major minor, atEnd)

def tagPrefix? (cursor : Cursor) : Option (Token × Cursor) := do
  let (word, after) := (← (cursor.skipWhile isBlank).expect? '!').takeWhile isNamePart
  let (handle, pastHandle) ← match after.expect? '!' with
    | some closed => some ("!" ++ String.ofList word ++ "!", closed)
    | none => if word.isEmpty then some ("!", after) else none
  let (blanks, atUri) := pastHandle.takeWhile isBlank
  let (uri, atEnd) ← tagText? true atUri
  if blanks.isEmpty || uri.isEmpty || !endsWord atEnd.rest then none
  else some (.tagPrefix handle uri, atEnd)

def directive? (cursor : Cursor) : Option (Token × Cursor) := do
  let (name, after) := (cursor.skip 1).takeWhile isNamePart
  let (token, atEnd) ← match String.ofList name with
    | "YAML" => if endsWord after.rest then version? after else none
    | "TAG" => if endsWord after.rest then tagPrefix? after else none
    | _ => none
  some (token, ← atEnd.endLine?)

/-! ### The lexer -/

/-- A place among the tokens at which a key may start. A required key stands where an item of the
collection around it has to start. -/
structure KeyPlace where
  place : Nat
  position : Position
  required : Bool

/-- The greatest number of characters from the start of a key to its colon. -/
def keyReach : Nat := 1024

def KeyPlace.isStale (key : KeyPlace) (position : Position) : Bool :=
  key.position.line < position.line || key.position.index + keyReach < position.index

/-- The lexer between two tokens: the tokens so far, last first, and their number; the margin,
which is one more than the column of the innermost block collection and zero outside of all, and
the margins around it; the place at which a key may start, and such places around each open
bracket; and whether a key may start at the next token. -/
structure Lexer where
  cursor : Cursor
  tokens : List Token
  count : Nat
  margin : Nat
  outerMargins : List Nat
  keyPlace : Option KeyPlace
  outerKeyPlaces : List (Option KeyPlace)
  keyAllowed : Bool

namespace Lexer

def start (text : List Char) : Lexer :=
  { cursor := ⟨text, .start⟩, tokens := [], count := 0, margin := 0, outerMargins := [],
    keyPlace := none, outerKeyPlaces := [], keyAllowed := true }

def column (lexer : Lexer) : Nat := lexer.cursor.position.column

def inFlow (lexer : Lexer) : Bool := !lexer.outerKeyPlaces.isEmpty

def emit (lexer : Lexer) (token : Token) : Lexer :=
  { lexer with tokens := token :: lexer.tokens, count := lexer.count + 1 }

def emitAt (lexer : Lexer) (place : Nat) (tokens : List Token) : Lexer :=
  let (later, earlier) := lexer.tokens.splitAt (lexer.count - place)
  { lexer with
    tokens := later ++ tokens.reverse ++ earlier, count := lexer.count + tokens.length }

def goTo (lexer : Lexer) (cursor : Cursor) : Lexer := { lexer with cursor := cursor }

def skip (lexer : Lexer) (count : Nat) : Lexer := lexer.goTo (lexer.cursor.skip count)

def allowKey (lexer : Lexer) (allowed : Bool) : Lexer := { lexer with keyAllowed := allowed }

/-- Forgets that a key may have started. A required key has to be one. -/
def dropKey? (lexer : Lexer) : Option Lexer :=
  match lexer.keyPlace with
  | some key => if key.required then none else some { lexer with keyPlace := none }
  | none => some lexer

def saveKey? (lexer : Lexer) : Option Lexer :=
  if lexer.keyAllowed then do
    let dropped ← lexer.dropKey?
    let required := !lexer.inFlow && lexer.margin = lexer.column + 1
    some { dropped with keyPlace := some ⟨lexer.count, lexer.cursor.position, required⟩ }
  else some lexer

/-- A place of a key that is still open at a position. A required key may not be stale. -/
def freshKey? (position : Position) : Option KeyPlace → Option (Option KeyPlace)
  | none => some none
  | some key =>
      if !key.isStale position then some (some key)
      else if key.required then none
      else some none

def freshKeys? (lexer : Lexer) : Option Lexer := do
  let position := lexer.cursor.position
  some { lexer with
    keyPlace := ← freshKey? position lexer.keyPlace
    outerKeyPlaces := ← lexer.outerKeyPlaces.mapM (freshKey? position) }

/-- Starts a block collection at a column, if that is further to the right than the one around
it. -/
def openBlock (lexer : Lexer) (column : Nat) : Bool × Lexer :=
  if !lexer.inFlow && lexer.margin ≤ column then
    (true, { lexer with
      margin := column + 1, outerMargins := lexer.margin :: lexer.outerMargins })
  else (false, lexer)

def openBlockHere (lexer : Lexer) (token : Token) : Lexer :=
  let (isNew, opened) := lexer.openBlock lexer.column
  if isNew then opened.emit token else opened

def closeBlocks (lexer : Lexer) (limit : Nat) : Lexer :=
  let rec close (margin : Nat) : List Nat → Nat × Nat × List Nat
    | [] => (0, margin, [])
    | outer :: rest =>
        if limit < margin then
          let (closed, left) := close outer rest
          (closed + 1, left)
        else (0, margin, outer :: rest)
  let (closed, margin, outerMargins) := close lexer.margin lexer.outerMargins
  { lexer with
    tokens := List.replicate closed .blockEnd ++ lexer.tokens
    count := lexer.count + closed
    margin := margin
    outerMargins := outerMargins }

/-- What may come before the next token: blanks, comments and line breaks. A tab in front of a key
is not passed over. The result says whether a key may start. -/
def passBlanks (inFlow keyAllowed inComment : Bool) (position : Position) :
    List Char → Cursor × Bool
  | [] => (⟨[], position⟩, keyAllowed)
  | c :: rest =>
      let next := position.after c
      if isBreak c then passBlanks inFlow (keyAllowed || !inFlow) false next rest
      else if inComment || c = '#' then passBlanks inFlow keyAllowed true next rest
      else if c = ' ' || (c = '\t' && (inFlow || !keyAllowed)) then
        passBlanks inFlow keyAllowed false next rest
      else (⟨c :: rest, position⟩, keyAllowed)

def approach? (lexer : Lexer) : Option Lexer := do
  let (cursor, keyAllowed) := passBlanks lexer.inFlow lexer.keyAllowed false
    lexer.cursor.position lexer.cursor.rest
  let fresh ← ((lexer.goTo cursor).allowKey keyAllowed).freshKeys?
  some (if fresh.inFlow then fresh else fresh.closeBlocks (fresh.column + 1))

/-- Leaves all block collections, as directives, markers and the end of the text do. -/
def leaveBlocks? (lexer : Lexer) : Option Lexer := do
  let left := if lexer.inFlow then lexer else lexer.closeBlocks 0
  some ((← left.dropKey?).allowKey false)

def takeDirective? (lexer : Lexer) : Option Lexer := do
  let left ← lexer.leaveBlocks?
  let (token, cursor) ← directive? left.cursor
  some ((left.goTo cursor).emit token)

def takeMarker? (lexer : Lexer) (token : Token) : Option Lexer := do
  some (((← lexer.leaveBlocks?).skip 3).emit token)

def takeOpening? (lexer : Lexer) (token : Token) : Option Lexer := do
  let saved ← lexer.saveKey?
  some ({ saved with
    keyPlace := none, outerKeyPlaces := saved.keyPlace :: saved.outerKeyPlaces, keyAllowed := true
    }.skip 1 |>.emit token)

/-- Reads a closing bracket. One without a partner is left to the reader of the tokens. -/
def takeClosing? (lexer : Lexer) (token : Token) : Option Lexer := do
  let dropped ← lexer.dropKey?
  let left := match dropped.outerKeyPlaces with
    | [] => dropped
    | keyPlace :: rest => { dropped with keyPlace := keyPlace, outerKeyPlaces := rest }
  some (((left.allowKey false).skip 1).emit token)

def takeSeparator? (lexer : Lexer) : Option Lexer := do
  some ((((← lexer.dropKey?).allowKey true).skip 1).emit .separator)

/-- Reads the hyphen of an item. In brackets it is left to the reader of the tokens. -/
def takeEntry? (lexer : Lexer) : Option Lexer := do
  if !lexer.inFlow && !lexer.keyAllowed then none
  else
    let dropped ← (lexer.openBlockHere .blockListStart).dropKey?
    some (((dropped.allowKey true).skip 1).emit .entry)

def takeKey? (lexer : Lexer) : Option Lexer := do
  if !lexer.inFlow && !lexer.keyAllowed then none
  else
    let dropped ← (lexer.openBlockHere .blockObjectStart).dropKey?
    some (((dropped.allowKey (!dropped.inFlow)).skip 1).emit .key)

/-- Reads the colon of a value. If a key may have started before, it did. -/
def takeValue? (lexer : Lexer) : Option Lexer :=
  match lexer.keyPlace with
  | some key =>
      let (isNew, opened) := lexer.openBlock key.position.column
      let found := opened.emitAt key.place (if isNew then [.blockObjectStart, .key] else [.key])
      some ((({ found with keyPlace := none }.allowKey false).skip 1).emit .value)
  | none =>
      if !lexer.inFlow && !lexer.keyAllowed then none
      else
        let opened := lexer.openBlockHere .blockObjectStart
        some (((opened.allowKey (!opened.inFlow)).skip 1).emit .value)

def takeAnchor? (lexer : Lexer) (token : String → Token) : Option Lexer := do
  let saved ← lexer.saveKey?
  let (name, cursor) ← anchorName? saved.cursor
  some (((saved.allowKey false).goTo cursor).emit (token name))

def takeTag? (lexer : Lexer) : Option Lexer := do
  let saved ← lexer.saveKey?
  let (token, cursor) ← tag? saved.inFlow saved.cursor
  some (((saved.allowKey false).goTo cursor).emit token)

def takeBlock? (lexer : Lexer) (isLiteral : Bool) : Option Lexer := do
  let dropped ← lexer.dropKey?
  let (text, cursor) ← block? isLiteral dropped.margin (dropped.cursor.skip 1)
  some (((dropped.allowKey true).goTo cursor).emit
    (.scalar text (if isLiteral then .literal else .quoted)))

def takeQuoted? (lexer : Lexer) (isDouble : Bool) : Option Lexer := do
  let saved ← lexer.saveKey?
  let body := saved.cursor.skip 1
  let (text, cursor) ← quoted? isDouble .text .start body.position body.rest
  some (((saved.allowKey false).goTo cursor).emit (.scalar text .quoted))

def takePlain? (lexer : Lexer) : Option Lexer := do
  let saved ← lexer.saveKey?
  let plain ← plain? saved.inFlow saved.margin .start saved.cursor.position saved.cursor.rest
  some (((saved.allowKey plain.endsLine).goTo plain.cursor).emit (.scalar plain.text .plain))

/-- Whether a character means something at the front of a token, so that a plain scalar cannot
start with it. -/
def isIndicator (c : Char) : Bool := "-?:,[]\x7b\x7d#&*!|>'\"%@`".contains c

def startsPlain (inFlow : Bool) (c : Char) (rest : List Char) : Bool :=
  let nextIsBlank := match rest with
    | next :: _ => isBlank next
    | [] => false
  (!isIndicator c && !isBlank c) || (c == '-' && !nextIsBlank) ||
    (!inFlow && (c == '?' || c == ':') && !endsWord rest)

def take? (lexer : Lexer) (c : Char) (rest : List Char) : Option Lexer :=
  if lexer.column = 0 && c = '%' then lexer.takeDirective?
  else if lexer.column = 0 && startsMarker (c :: rest) then
    lexer.takeMarker? (if c = '-' then .documentStart else .documentEnd)
  else if c = '[' then lexer.takeOpening? .flowListStart
  else if c = '{' then lexer.takeOpening? .flowObjectStart
  else if c = ']' then lexer.takeClosing? .flowListEnd
  else if c = '}' then lexer.takeClosing? .flowObjectEnd
  else if c = ',' then lexer.takeSeparator?
  else if c = '-' && endsWord rest then lexer.takeEntry?
  else if c = '?' && (lexer.inFlow || endsWord rest) then lexer.takeKey?
  else if c = ':' && (lexer.inFlow || endsWord rest) then lexer.takeValue?
  else if c = '*' then lexer.takeAnchor? .alias
  else if c = '&' then lexer.takeAnchor? .anchor
  else if c = '!' then lexer.takeTag?
  else if c = '|' && !lexer.inFlow then lexer.takeBlock? true
  else if c = '>' && !lexer.inFlow then lexer.takeBlock? false
  else if c = '\'' then lexer.takeQuoted? false
  else if c = '"' then lexer.takeQuoted? true
  else if startsPlain lexer.inFlow c rest then lexer.takePlain?
  else none

def finish? (lexer : Lexer) : Option (List Token) := do
  some ((← lexer.leaveBlocks?).emit .streamEnd).tokens.reverse

def run? : Nat → Lexer → Option (List Token)
  | 0, _ => none
  | limit + 1, lexer => do
      let ready ← lexer.approach?
      match ready.cursor.rest with
      | [] => ready.finish?
      | c :: rest => run? limit (← ready.take? c rest)

end Lexer

/-- The tokens of a text. Each but those that indentation makes takes a character at least, so the
number of characters bounds how many are read. -/
def tokens? (text : List Char) : Option (List Token) :=
  Lexer.run? (text.length + 1) (Lexer.start text)

end NetworkTwin.Yaml
