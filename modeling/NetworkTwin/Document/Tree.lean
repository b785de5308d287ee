import NetworkTwin.Document.Value

/-!
Documents as they are read, before it is known what they should hold. A tree keeps what a typed
reading has to judge: repeated keys, scalars without quotes, tags, and leaves that are well written
but have no value.
-/

namespace NetworkTwin

inductive ScalarStyle where
  | plain
  | literal
  | quoted
deriving DecidableEq, Repr

/-- A scalar whose kind depends on what is wanted: its text, its style and its full tag. -/
structure Scalar where
  text : String
  style : ScalarStyle
  tag : Option String
deriving DecidableEq, Repr

inductive Tree where
  | null
  | bool (value : Bool)
  | number (value : Number)
  | text (value : String)
  | scalar (value : Scalar)
  /-- Well written, but without a value: it may only be passed over. -/
  | unreadable
  | list (items : List Tree)
  | object (entries : List (String × Tree))
  /-- A list or an object under a tag of the document's own. -/
  | tagged (tag : String) (body : Tree)

namespace Tree

instance : Inhabited Tree := ⟨.null⟩

end Tree

namespace Value

mutual

def toTree : Value → Tree
  | .null => .null
  | .bool value => .bool value
  | .number value => .number value
  | .text value => .text value
  | .list items => .list (toTrees items)
  | .object entries => .object (toTreeEntries entries)

def toTrees : List Value → List Tree
  | [] => []
  | item :: rest => item.toTree :: toTrees rest

def toTreeEntries : List (String × Value) → List (String × Tree)
  | [] => []
  | (key, value) :: rest => (key, value.toTree) :: toTreeEntries rest

end

end Value

end NetworkTwin
