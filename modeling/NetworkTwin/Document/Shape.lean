import NetworkTwin.Document.Tree

/-!
How far a typed reading looks into a document. It follows the fields that a record knows, and what
they hold as far as its own shape says. The fields that a record does not know are passed over, and
the nesting in them does not count.
-/

namespace NetworkTwin

inductive Shape where
  /-- Looked at in full. -/
  | whole
  /-- Passed over. -/
  | skipped
  | list (item : Shape)
  | record (fields : List (String × Shape))

namespace Shape

/-- A record with nothing but fields that are looked at in full. -/
def flat (names : List String) : Shape := .record (names.map fun name => (name, .whole))

def names : Shape → List String
  | .record fields => fields.map (·.1)
  | _ => []

/-- What is looked at in an item of a list, which may be a record's list of fields. -/
def item (shape : Shape) (place : Nat) : Shape :=
  match shape with
  | .whole => .whole
  | .skipped => .skipped
  | .list item => item
  | .record fields => (fields[place]?.map (·.2)).getD .skipped

def entry (shape : Shape) (name : String) : Shape :=
  match shape with
  | .whole => .whole
  | .record fields => (fields.lookup name).getD .skipped
  | _ => .skipped

mutual

/-- The greatest number of lists and objects inside one another, among those that are looked at. -/
def depth : Shape → Tree → Nat
  | .skipped, _ => 0
  | shape, .list items => depthOfItems shape 0 items + 1
  | shape, .object entries => depthOfEntries shape entries + 1
  | shape, .tagged _ body => depth shape body
  | _, _ => 0

def depthOfItems (shape : Shape) (place : Nat) : List Tree → Nat
  | [] => 0
  | tree :: rest => max (depth (shape.item place) tree) (depthOfItems shape (place + 1) rest)

def depthOfEntries (shape : Shape) : List (String × Tree) → Nat
  | [] => 0
  | (name, tree) :: rest => max (depth (shape.entry name) tree) (depthOfEntries shape rest)

end

end Shape

end NetworkTwin
