import NetworkTwin.Document.Yaml.Node
import NetworkTwin.Document.Yaml.Token

/-!
Nodes from the tokens of the indentation format. One pass over the tokens keeps the collections
that are still open on a stack, and for each what it waits for. Where a node is missing the empty
scalar stands. A stream holds one document.

A node may have an anchor. The number of an anchor is how many names of anchors there were before,
and its name means this number from then on. A name that is used again is no further name, so two
anchors can have one number. An alias has the number that its name means when it is read, and
stands for the last node that an anchor of this number was written for.
-/

namespace NetworkTwin.Yaml

inductive Expectation where
  /-- A directive, the marker of the document, or its root. -/
  | document
  /-- A further directive, or the marker of the document. -/
  | marker
  /-- The root after the marker. -/
  | root
  /-- The end of the stream. -/
  | ending
  /-- An item of an indented list, or its end. -/
  | blockEntry
  /-- The node of an item of an indented list. -/
  | blockItem
  /-- An item of a list that is indented like the object around it, or its end. -/
  | bareEntry
  /-- The node of an item of such a list. -/
  | bareItem
  /-- A key of an indented object, or its end. -/
  | blockKey
  /-- The node of a key of an indented object. -/
  | blockKeyNode
  /-- The colon after a key of an indented object. -/
  | blockValue
  /-- The node of a value of an indented object. -/
  | blockValueNode
  /-- An item of a list in brackets, or its end. -/
  | flowItem
  /-- A comma between the items of a list in brackets, or its end. -/
  | flowSeparator
  /-- The node of the key of a lone pair. -/
  | pairKeyNode
  /-- The colon of a lone pair. -/
  | pairValue
  /-- The node of the value of a lone pair. -/
  | pairValueNode
  /-- The end of a lone pair, which no token marks. -/
  | pairEnd
  /-- A key of an object in braces, or its end. -/
  | flowKey
  /-- The node of a key of an object in braces. -/
  | flowKeyNode
  /-- The value of a key that no mark stands before: there is none. -/
  | flowNoValue
  /-- The colon after a key of an object in braces. -/
  | flowValue
  /-- The node of a value of an object in braces. -/
  | flowValueNode
  /-- A comma between the entries of an object in braces, or its end. -/
  | flowObjectSeparator
deriving DecidableEq, Repr

inductive Action where
  /-- The token is taken, and something else is waited for. -/
  | move (next : Expectation)
  /-- The token starts a node or says something about one. -/
  | node
  /-- A node is missing; the token is looked at again. -/
  | omit
  /-- A node is missing, and the token is taken all the same. -/
  | omitTaking
  /-- The token ends the collection. -/
  | close
  /-- The collection ended before the token, which is looked at again. -/
  | closeBefore
  /-- The token starts a lone pair. -/
  | openPair
  /-- The token is a directive. -/
  | direct
  /-- The token cannot stand here. -/
  | fail
deriving DecidableEq, Repr

namespace Expectation

def action (expected : Expectation) (token : Token) : Action :=
  match expected, token with
  | .document, .version _ _ => .direct
  | .document, .tagPrefix _ _ => .direct
  | .document, .documentStart => .move .root
  | .document, .streamEnd => .fail
  | .document, _ => .node
  | .marker, .version _ _ => .direct
  | .marker, .tagPrefix _ _ => .direct
  | .marker, .documentStart => .move .root
  | .marker, _ => .fail
  | .root, .version _ _ => .omit
  | .root, .tagPrefix _ _ => .omit
  | .root, .documentStart => .omit
  | .root, .documentEnd => .omit
  | .root, .streamEnd => .omit
  | .root, _ => .node
  | .ending, .documentEnd => .move .ending
  | .ending, .streamEnd => .move .ending
  | .ending, _ => .fail
  | .blockEntry, .entry => .move .blockItem
  | .blockEntry, .blockEnd => .close
  | .blockEntry, _ => .fail
  | .blockItem, .entry => .omit
  | .blockItem, .blockEnd => .omit
  | .blockItem, _ => .node
  | .bareEntry, .entry => .move .bareItem
  | .bareEntry, _ => .closeBefore
  | .bareItem, .entry => .omit
  | .bareItem, .key => .omit
  | .bareItem, .value => .omit
  | .bareItem, .blockEnd => .omit
  | .bareItem, _ => .node
  | .blockKey, .key => .move .blockKeyNode
  | .blockKey, .blockEnd => .close
  | .blockKey, _ => .fail
  | .blockKeyNode, .key => .omit
  | .blockKeyNode, .value => .omit
  | .blockKeyNode, .blockEnd => .omit
  | .blockKeyNode, _ => .node
  | .blockValue, .value => .move .blockValueNode
  | .blockValue, _ => .omit
  | .blockValueNode, .key => .omit
  | .blockValueNode, .value => .omit
  | .blockValueNode, .blockEnd => .omit
  | .blockValueNode, _ => .node
  | .flowItem, .flowListEnd => .close
  | .flowItem, .key => .openPair
  | .flowItem, _ => .node
  | .flowSeparator, .separator => .move .flowItem
  | .flowSeparator, .flowListEnd => .close
  | .flowSeparator, _ => .fail
  | .pairKeyNode, .value => .omitTaking
  | .pairKeyNode, .separator => .omitTaking
  | .pairKeyNode, .flowListEnd => .omitTaking
  | .pairKeyNode, _ => .node
  | .pairValue, .value => .move .pairValueNode
  | .pairValue, _ => .omit
  | .pairValueNode, .separator => .omit
  | .pairValueNode, .flowListEnd => .omit
  | .pairValueNode, _ => .node
  | .pairEnd, _ => .closeBefore
  | .flowKey, .flowObjectEnd => .close
  | .flowKey, .key => .move .flowKeyNode
  | .flowKey, _ => .node
  | .flowKeyNode, .value => .omit
  | .flowKeyNode, .separator => .omit
  | .flowKeyNode, .flowObjectEnd => .omit
  | .flowKeyNode, _ => .node
  | .flowNoValue, _ => .omit
  | .flowValue, .value => .move .flowValueNode
  | .flowValue, _ => .omit
  | .flowValueNode, .separator => .omit
  | .flowValueNode, .flowObjectEnd => .omit
  | .flowValueNode, _ => .node
  | .flowObjectSeparator, .separator => .move .flowKey
  | .flowObjectSeparator, .flowObjectEnd => .close
  | .flowObjectSeparator, _ => .fail

def afterNode : Expectation → Expectation
  | .document => .ending
  | .root => .ending
  | .blockItem => .blockEntry
  | .bareItem => .bareEntry
  | .blockKeyNode => .blockValue
  | .blockValue => .blockKey
  | .blockValueNode => .blockKey
  | .flowItem => .flowSeparator
  | .pairKeyNode => .pairValue
  | .pairValue => .pairEnd
  | .pairValueNode => .pairEnd
  | .flowKey => .flowNoValue
  | .flowKeyNode => .flowValue
  | .flowNoValue => .flowObjectSeparator
  | .flowValue => .flowObjectSeparator
  | .flowValueNode => .flowObjectSeparator
  | expected => expected

def allowsBlock : Expectation → Bool
  | .document => true
  | .root => true
  | .blockItem => true
  | .bareItem => true
  | .blockKeyNode => true
  | .blockValueNode => true
  | _ => false

def allowsBareList : Expectation → Bool
  | .blockKeyNode => true
  | .blockValueNode => true
  | _ => false

end Expectation

structure Properties where
  anchor : Option String
  tag : Option String

def Properties.empty : Properties := ⟨none, none⟩

def Properties.isPresent (properties : Properties) : Bool :=
  properties.anchor.isSome || properties.tag.isSome

/-- An open collection, or the document: whether it is an object, its nodes so far, last first, an
object's keys and values by turns; what it waits for; its tag; and its place among the nodes with
an anchor. -/
structure Frame where
  isObject : Bool
  nodes : List Node
  next : Expectation
  tag : Option String
  anchor : Option Nat

def Frame.node (frame : Frame) : Node :=
  if frame.isObject then .object frame.tag frame.nodes.reverse
  else .list frame.tag frame.nodes.reverse

/-- The reader between two tokens: the open collections, innermost first, the document last; what
has been said about the next node; the numbers of the anchors by name; the nodes with an anchor so
far, last first, by number, each once it is complete; the prefixes of tags; whether the version was
given; and the number of the parts read. -/
structure Reader where
  frames : List Frame
  properties : Properties
  anchors : Dictionary Nat
  anchored : List (Nat × Option Node)
  prefixes : List (String × String)
  hasVersion : Bool
  parts : Nat

namespace Reader

def start : Reader :=
  { frames := [⟨false, [], .document, none, none⟩], properties := .empty, anchors := .empty,
    anchored := [], prefixes := [], hasVersion := false, parts := 0 }

/-- The prefix of a handle: one that was declared, or one of the two that always are. -/
def tagPrefixOf? (reader : Reader) (handle : String) : Option String :=
  match reader.prefixes.lookup handle with
  | some declared => some declared
  | none =>
      match handle with
      | "!" => some "!"
      | "!!" => some "tag:yaml.org,2002:"
      | _ => none

def fullTag? (reader : Reader) (handle suffix : String) : Option String :=
  if handle.isEmpty then some suffix else (reader.tagPrefixOf? handle).map (· ++ suffix)

def count (reader : Reader) (parts : Nat) : Reader := { reader with parts := reader.parts + parts }

def deliver? (reader : Reader) (node : Node) : Option Reader :=
  match reader.frames with
  | [] => none
  | frame :: outer =>
      some { reader with
        frames := { frame with
          nodes := node :: frame.nodes
          next := frame.next.afterNode } :: outer
        properties := .empty }

def declareAnchor (reader : Reader) (name : Option String) : Reader × Option Nat :=
  match name with
  | some name =>
      let number := reader.anchors.entries.length
      ({ reader with
        anchors := reader.anchors.insert name number
        anchored := (number, none) :: reader.anchored }, some reader.anchored.length)
  | none => (reader, none)

def completeAnchor (reader : Reader) (place : Option Nat) (node : Node) : Reader :=
  match place with
  | some place =>
      let fromFront := reader.anchored.length - 1 - place
      { reader with
        anchored := reader.anchored.modify fromFront fun entry => (entry.1, some node) }
  | none => reader

/-- Takes a scalar. The tag that is a lone mark leaves it without a tag. -/
def takeScalar? (reader : Reader) (text : String) (style : ScalarStyle) (tag : Option String) :
    Option Reader :=
  let node : Node := .scalar ⟨text, style, tag⟩
  let (declared, place) := (reader.count 1).declareAnchor reader.properties.anchor
  (declared.completeAnchor place node).deliver? node

def takeNothing? (reader : Reader) : Option Reader :=
  reader.takeScalar? "" .plain reader.properties.tag

def reference? (reader : Reader) (name : String) : Option Node :=
  (reader.anchors.get? name).map .reference

def openFrame (reader : Reader) (isObject : Bool) (next : Expectation) : Reader :=
  let (declared, place) := (reader.count 1).declareAnchor reader.properties.anchor
  { declared with
    frames := ⟨isObject, [], next, reader.properties.tag, place⟩ :: declared.frames
    properties := .empty }

def closeFrame? (reader : Reader) : Option Reader :=
  match reader.frames with
  | [] => none
  | frame :: outer =>
      let ended := { reader with frames := outer }.count 1
      (ended.completeAnchor frame.anchor frame.node).deliver? frame.node

def wait (reader : Reader) (next : Expectation) : Reader :=
  match reader.frames with
  | [] => reader
  | frame :: outer => { reader with frames := { frame with next := next } :: outer }

/-- Takes a directive. There is one version, which has to be known, and one prefix for each
handle. -/
def takeDirective? (reader : Reader) (token : Token) : Option Reader :=
  match token with
  | .version major minor =>
      if reader.hasVersion || major ≠ 1 || (minor ≠ 1 && minor ≠ 2) then none
      else some ({ reader with hasVersion := true }.wait .marker)
  | .tagPrefix handle uri =>
      if (reader.prefixes.lookup handle).isSome then none
      else some ({ reader with prefixes := (handle, uri) :: reader.prefixes }.wait .marker)
  | _ => none

def takeProperty? (reader : Reader) (token : Token) : Option Reader :=
  let said := reader.properties
  match token with
  | .anchor name =>
      if said.anchor.isSome then none
      else some { reader with properties := { said with anchor := some name } }
  | .tag handle suffix =>
      if said.tag.isSome then none
      else do some { reader with
        properties := { said with tag := some (← reader.fullTag? handle suffix) } }
  | _ => none

structure Look where
  reader : Reader
  isTaken : Bool

def taken (reader : Reader) : Look := ⟨reader, true⟩

def again (reader : Reader) : Look := ⟨reader, false⟩

/-- Takes a token that starts a node, given what is waited for. After something was said about a
node, the node may be missing. -/
def takeNode? (reader : Reader) (expected : Expectation) (token : Token) : Option Look :=
  let missing : Option Look :=
    if reader.properties.isPresent then reader.takeNothing?.map again else none
  match token with
  | .anchor _ => (reader.takeProperty? token).map taken
  | .tag _ _ => (reader.takeProperty? token).map taken
  | .alias name =>
      if reader.properties.isPresent then missing
      else do (← (reader.count 1).deliver? (← reader.reference? name)) |> taken |> some
  | .scalar text style =>
      let tag := reader.properties.tag.filter (· ≠ "!")
      (reader.takeScalar? text style tag).map taken
  | .entry =>
      if expected.allowsBareList then some (taken (reader.openFrame false .bareItem)) else missing
  | .flowListStart => some (taken (reader.openFrame false .flowItem))
  | .flowObjectStart => some (taken (reader.openFrame true .flowKey))
  | .blockListStart =>
      if expected.allowsBlock then some (taken (reader.openFrame false .blockEntry)) else missing
  | .blockObjectStart =>
      if expected.allowsBlock then some (taken (reader.openFrame true .blockKey)) else missing
  | _ => missing

def look? (reader : Reader) (token : Token) : Option Look :=
  match reader.frames with
  | [] => none
  | frame :: _ =>
      if reader.properties.isPresent then reader.takeNode? frame.next token
      else match frame.next.action token with
        | .move next => some (taken (reader.wait next))
        | .node => reader.takeNode? frame.next token
        | .omit => reader.takeNothing?.map again
        | .omitTaking => reader.takeNothing?.map taken
        | .close => reader.closeFrame?.map taken
        | .closeBefore => reader.closeFrame?.map again
        | .openPair => some (taken (reader.openFrame true .pairKeyNode))
        | .direct => (reader.takeDirective? token).map taken
        | .fail => none

def take? (token : Token) : Nat → Reader → Option Reader
  | 0, _ => none
  | times + 1, reader => do
      let look ← reader.look? token
      if look.isTaken then some look.reader else take? token times look.reader

/-- The most often that one token is looked at: it may show that a node said something about is
missing, that a list ends, and that a value and a key are missing, before it is taken. -/
def patience : Nat := 8

def run? (tokens : List Token) : Option Reader :=
  tokens.foldlM (fun reader token => take? token patience reader) start

def document? (reader : Reader) : Option Node :=
  match reader.frames with
  | [frame] => frame.nodes.head?
  | _ => none

def anchoredNodes (reader : Reader) : List (Nat × Node) :=
  reader.anchored.filterMap fun entry => entry.2.map fun node => (entry.1, node)

end Reader

/-- How often aliases may be followed in all, for each part of the document. -/
def aliasesPerPart : Nat := 100

/-- The greatest number of lists and objects inside one another that are followed. -/
def maxDepth : Nat := 128

def read? (shape : Shape) (text : String) : Option Tree := do
  let tokens ← tokens? (← prepare? text.toList)
  let reader ← Reader.run? tokens
  let document ← reader.document?
  (document.follow reader.anchoredNodes maxDepth shape).run' (aliasesPerPart * reader.parts)

end NetworkTwin.Yaml
