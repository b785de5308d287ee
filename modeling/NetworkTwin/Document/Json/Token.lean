import NetworkTwin.Decimal.Reading
import NetworkTwin.Document.Value

/-!
Tokens of the brace format (RFC 8259), found by one pass over the characters. A text with an
unpaired surrogate escape and a number beyond the range of doubles are tokens without a value: the
grammar allows them, and only a reader that needs their value has to refuse them.
-/

namespace NetworkTwin.Json

inductive Token where
  | openList
  | closeList
  | openObject
  | closeObject
  | comma
  | colon
  | null
  | bool (value : Bool)
  | text (value : Option String)
  | number (value : Option Number)

/-- What an escaped character after a backslash stands for; a code unit escape is not among
them. -/
def simpleEscape? : Char → Option Char
  | '"' => some '"'
  | '\\' => some '\\'
  | '/' => some '/'
  | 'b' => some (Char.ofNat 8)
  | 'f' => some (Char.ofNat 12)
  | 'n' => some '\n'
  | 'r' => some '\r'
  | 't' => some '\t'
  | _ => none

/-- The number that a lexeme denotes: nothing if the lexeme is none of the grammar, `some none` if
its value is out of range. Whole numbers stay whole while 64 bits hold them; minus zero is a
double. -/
def readNumber? (lexeme : List Char) : Option (Option Number) := do
  let (negative, unsigned) := match lexeme with
    | '-' :: rest => (true, rest)
    | rest => (false, rest)
  let parts ← Decimal.Parts.cut? negative unsigned
  let leadingZero := match parts.whole with
    | '0' :: _ :: _ => true
    | _ => false
  if parts.whole.isEmpty || leadingZero || parts.fraction == some [] then none
  else
    let whole := (Text.digits? 10 parts.whole).getD 0
    let real := parts.scale?.map Number.real
    if parts.fraction.isSome || parts.exponent.isSome then some real
    else if negative then
      let fits := 0 < whole && whole ≤ UInt64.size / 2
      some (if fits then some (.whole (-Int.ofNat whole)) else real)
    else some (if whole < UInt64.size then some (.whole (Int.ofNat whole)) else real)

/-- The inside of a text: the characters read so far, last first, a leading surrogate that waits
for its other half, and whether all went well. -/
structure TextState where
  characters : List Char
  leading : Option Nat
  sound : Bool

/-- Takes in a character; a leading surrogate before it has lost its other half. -/
def TextState.push (state : TextState) (c : Char) : TextState :=
  ⟨c :: state.characters, none, state.sound && state.leading.isNone⟩

def TextState.pushUnit (state : TextState) (codeUnit : Nat) : TextState :=
  let isLeading := 0xD800 ≤ codeUnit && codeUnit ≤ 0xDBFF
  let isTrailing := 0xDC00 ≤ codeUnit && codeUnit ≤ 0xDFFF
  match state.leading with
  | some leading =>
      if isTrailing then
        let point := 0x10000 + (leading - 0xD800) * 0x400 + (codeUnit - 0xDC00)
        ⟨Char.ofNat point :: state.characters, none, state.sound⟩
      else { state with sound := false }
  | none =>
      if isLeading then { state with leading := some codeUnit }
      else if isTrailing then { state with sound := false }
      else state.push (Char.ofNat codeUnit)

def TextState.close (state : TextState) : Option String :=
  if state.sound && state.leading.isNone then some (String.ofList state.characters.reverse)
  else none

inductive Mode where
  | between
  | inNumber (lexeme : List Char)
  | inWord (letters : List Char)
  | inText (state : TextState)
  | inEscape (state : TextState)
  | inUnit (state : TextState) (digits : List Char)

/-- The tokens found so far, last first, and the mode. -/
structure Lexer where
  tokens : List Token
  mode : Mode

def Lexer.start : Lexer := ⟨[], .between⟩

/-- Ends a number or a word; anything else that is open is an error. -/
def Lexer.finish? (lexer : Lexer) : Option (List Token) :=
  match lexer.mode with
  | .between => some lexer.tokens
  | .inNumber lexeme =>
      (readNumber? lexeme.reverse).map fun value => .number value :: lexer.tokens
  | .inWord letters =>
      match String.ofList letters.reverse with
      | "null" => some (.null :: lexer.tokens)
      | "true" => some (.bool true :: lexer.tokens)
      | "false" => some (.bool false :: lexer.tokens)
      | _ => none
  | _ => none

def isNumberPart (c : Char) : Bool :=
  Text.isDigit c || c == '-' || c == '+' || c == '.' || c == 'e' || c == 'E'

def isWordPart (c : Char) : Bool := 'a' ≤ c && c ≤ 'z'

def Lexer.begin? (tokens : List Token) (c : Char) : Option Lexer :=
  match c with
  | '[' => some ⟨.openList :: tokens, .between⟩
  | ']' => some ⟨.closeList :: tokens, .between⟩
  | '{' => some ⟨.openObject :: tokens, .between⟩
  | '}' => some ⟨.closeObject :: tokens, .between⟩
  | ',' => some ⟨.comma :: tokens, .between⟩
  | ':' => some ⟨.colon :: tokens, .between⟩
  | '"' => some ⟨tokens, .inText ⟨[], none, true⟩⟩
  | ' ' => some ⟨tokens, .between⟩
  | '\n' => some ⟨tokens, .between⟩
  | '\r' => some ⟨tokens, .between⟩
  | '\t' => some ⟨tokens, .between⟩
  | _ =>
      if c == '-' || Text.isDigit c then some ⟨tokens, .inNumber [c]⟩
      else if isWordPart c then some ⟨tokens, .inWord [c]⟩
      else none

def Lexer.step? (lexer : Lexer) (c : Char) : Option Lexer :=
  match lexer.mode with
  | .between => Lexer.begin? lexer.tokens c
  | .inNumber lexeme =>
      if isNumberPart c then some ⟨lexer.tokens, .inNumber (c :: lexeme)⟩
      else lexer.finish?.bind fun tokens => Lexer.begin? tokens c
  | .inWord letters =>
      if isWordPart c then some ⟨lexer.tokens, .inWord (c :: letters)⟩
      else lexer.finish?.bind fun tokens => Lexer.begin? tokens c
  | .inText state =>
      if c = '"' then some ⟨.text state.close :: lexer.tokens, .between⟩
      else if c = '\\' then some ⟨lexer.tokens, .inEscape state⟩
      else if c.toNat < 0x20 then none
      else some ⟨lexer.tokens, .inText (state.push c)⟩
  | .inEscape state =>
      if c = 'u' then some ⟨lexer.tokens, .inUnit state []⟩
      else (simpleEscape? c).map fun meant => ⟨lexer.tokens, .inText (state.push meant)⟩
  | .inUnit state digits =>
      if digits.length < 3 then
        (Text.digitValue? 16 c).map fun _ => ⟨lexer.tokens, .inUnit state (c :: digits)⟩
      else
        (Text.digits? 16 (c :: digits).reverse).map fun codeUnit =>
          ⟨lexer.tokens, .inText (state.pushUnit codeUnit)⟩

def tokens? (text : List Char) : Option (List Token) := do
  let lexer ← text.foldlM Lexer.step? Lexer.start
  let tokens ← lexer.finish?
  some tokens.reverse

end NetworkTwin.Json
