import NetworkTwin.Document.Json.Token
import NetworkTwin.Document.Tree

/-!
Trees from the tokens of the brace format. One pass over the tokens keeps the lists and objects
that are still open on a stack, so the reader is a left fold and has no limit on nesting of its
own.
-/

namespace NetworkTwin.Json

/-- A list or an object that is still open, with what it holds so far, last first. An object also
waits for the value of a key; its keys have values only if it is sound. -/
inductive Frame where
  | list (items : List Tree)
  | object (entries : List (String × Tree)) (sound : Bool) (key : String)

inductive Expectation where
  | value
  | valueOrClose
  | key
  | keyOrClose
  | colon
  | separator
  | nothing (document : Tree)

/-- The open frames, innermost first, and what may come next. -/
structure Reader where
  frames : List Frame
  next : Expectation

def Reader.start : Reader := ⟨[], .value⟩

def deliver (tree : Tree) : List Frame → Reader
  | [] => ⟨[], .nothing tree⟩
  | .list items :: rest => ⟨.list (tree :: items) :: rest, .separator⟩
  | .object entries sound key :: rest =>
      ⟨.object ((key, tree) :: entries) sound key :: rest, .separator⟩

def closeList? : List Frame → Option Reader
  | .list items :: rest => some (deliver (.list items.reverse) rest)
  | _ => none

/-- A closed object. Where a key has no value, neither has the object. -/
def closeObject? : List Frame → Option Reader
  | .object entries sound _ :: rest =>
      some (deliver (if sound then .object entries.reverse else .unreadable) rest)
  | _ => none

def Reader.value? (frames : List Frame) : Token → Option Reader
  | .openList => some ⟨.list [] :: frames, .valueOrClose⟩
  | .openObject => some ⟨.object [] true "" :: frames, .keyOrClose⟩
  | .null => some (deliver .null frames)
  | .bool value => some (deliver (.bool value) frames)
  | .text (some value) => some (deliver (.text value) frames)
  | .text none => some (deliver .unreadable frames)
  | .number (some value) => some (deliver (.number value) frames)
  | .number none => some (deliver .unreadable frames)
  | _ => none

def Reader.key? (frames : List Frame) (token : Token) : Option Reader :=
  match token, frames with
  | .text (some key), .object entries sound _ :: rest =>
      some ⟨.object entries sound key :: rest, .colon⟩
  | .text none, .object entries _ _ :: rest => some ⟨.object entries false "" :: rest, .colon⟩
  | _, _ => none

def Reader.step? (reader : Reader) (token : Token) : Option Reader :=
  match reader.next, token with
  | .value, token => Reader.value? reader.frames token
  | .valueOrClose, .closeList => closeList? reader.frames
  | .valueOrClose, token => Reader.value? reader.frames token
  | .key, token => Reader.key? reader.frames token
  | .keyOrClose, .closeObject => closeObject? reader.frames
  | .keyOrClose, token => Reader.key? reader.frames token
  | .colon, .colon => some ⟨reader.frames, .value⟩
  | .colon, _ => none
  | .separator, .closeList => closeList? reader.frames
  | .separator, .closeObject => closeObject? reader.frames
  | .separator, .comma =>
      match reader.frames with
      | .list _ :: _ => some ⟨reader.frames, .value⟩
      | .object _ _ _ :: _ => some ⟨reader.frames, .key⟩
      | [] => none
  | .separator, _ => none
  | .nothing _, _ => none

/-- The greatest number of lists and objects inside one another that a typed reading follows. -/
def maxDepth : Nat := 127

def read? (text : String) : Option Tree := do
  let tokens ← tokens? text.toList
  let reader ← tokens.foldlM Reader.step? Reader.start
  match reader.next with
  | .nothing document => some document
  | _ => none

end NetworkTwin.Json
