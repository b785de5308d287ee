import NetworkTwin.Decimal.Notation
import NetworkTwin.Text.Numeral
import NetworkTwin.Document.Value

/-!
Written forms of free-form data in the brace format: one on a single line, one with a line for
each item.
-/

namespace NetworkTwin.Json

/-- A character inside a text. Quotes, backslashes and control characters are escaped. -/
def escape (c : Char) : String :=
  match c with
  | '"' => "\\\""
  | '\\' => "\\\\"
  | '\n' => "\\n"
  | '\r' => "\\r"
  | '\t' => "\\t"
  | _ =>
      if c.toNat = 8 then "\\b"
      else if c.toNat = 12 then "\\f"
      else if c.toNat < 0x20 then "\\u" ++ Text.fixedDigits 16 4 c.toNat
      else c.toString

def quote (text : String) : String :=
  "\"" ++ text.foldl (fun written c => written ++ escape c) "" ++ "\""

def number : Number → String
  | .whole value => toString value
  | .real value => Decimal.data value

mutual

def compact : Value → String
  | .null => "null"
  | .bool value => if value then "true" else "false"
  | .number value => number value
  | .text value => quote value
  | .list items => "[" ++ compactItems true items ++ "]"
  | .object entries => "\x7b" ++ compactEntries true entries ++ "\x7d"

def compactItems (isFirst : Bool) : List Value → String
  | [] => ""
  | item :: rest => (if isFirst then "" else ",") ++ compact item ++ compactItems false rest

def compactEntries (isFirst : Bool) : List (String × Value) → String
  | [] => ""
  | (key, value) :: rest =>
      (if isFirst then "" else ",") ++ quote key ++ ":" ++ compact value ++
        compactEntries false rest

end

def newLine (depth : Nat) : String :=
  "\n" ++ String.ofList (List.replicate (2 * depth) ' ')

mutual

/-- A value over several lines, two blanks for each level. Empty lists and objects stay on one
line. -/
def pretty (depth : Nat) : Value → String
  | .null => "null"
  | .bool value => if value then "true" else "false"
  | .number value => number value
  | .text value => quote value
  | .list [] => "[]"
  | .list items => "[" ++ prettyItems (depth + 1) true items ++ newLine depth ++ "]"
  | .object [] => "\x7b\x7d"
  | .object entries =>
      "\x7b" ++ prettyEntries (depth + 1) true entries ++ newLine depth ++ "\x7d"

def prettyItems (depth : Nat) (isFirst : Bool) : List Value → String
  | [] => ""
  | item :: rest =>
      (if isFirst then "" else ",") ++ newLine depth ++ pretty depth item ++
        prettyItems depth false rest

def prettyEntries (depth : Nat) (isFirst : Bool) : List (String × Value) → String
  | [] => ""
  | (key, value) :: rest =>
      (if isFirst then "" else ",") ++ newLine depth ++ quote key ++ ": " ++ pretty depth value ++
        prettyEntries depth false rest

end

def render (value : Value) : String := pretty 0 value

end NetworkTwin.Json
