import NetworkTwin.Document.Shape

/-!
Nodes of the indentation format, in which an alias stands for another node, and the trees that they
stand for. An alias is followed wherever the document is looked at, each time anew. How often that
happens is limited for the document as a whole, and so is how deep lists and objects are inside one
another. So every reading ends, even of a node that holds an alias for itself.
-/

namespace NetworkTwin.Yaml

/-- A node as it is written. An object holds its keys and values by turns, and an alias the number
of an anchor. -/
inductive Node where
  | scalar (leaf : Scalar)
  | list (tag : Option String) (items : List Node)
  | object (tag : Option String) (nodes : List Node)
  | reference (anchor : Nat)

/-- A reading that may fail, with the number of times that it may still follow an alias. -/
abbrev Following := StateT Nat Option

namespace Node

/-- The node, or the one with an anchor that it refers to. -/
def target (anchored : List (Nat × Node)) : Node → Following Node
  | .reference anchor => fun left =>
      match left with
      | 0 => none
      | fewer + 1 => (anchored.lookup anchor).map fun node => (node, fewer)
  | node => pure node

/-- A collection under a tag of the document's own, if it has one. Other tags do not matter. -/
def underTag (tag : Option String) (body : Tree) : Tree :=
  match tag with
  | some tag => if tag.startsWith "!" then .tagged tag body else body
  | none => body

def items (follow : Shape → Node → Following Tree) (shape : Shape) (place : Nat) :
    List Node → Following (List Tree)
  | [] => return []
  | node :: rest => do
      let tree ← follow (shape.item place) node
      return tree :: (← items follow shape (place + 1) rest)

/-- The entries of an object out of its keys and values by turns. Keys are scalars. -/
def entries (anchored : List (Nat × Node)) (follow : Shape → Node → Following Tree)
    (shape : Shape) : List Node → Following (List (String × Tree))
  | key :: value :: rest => do
      match ← key.target anchored with
      | .scalar leaf =>
          let tree ← follow (shape.entry leaf.text) value
          return (leaf.text, tree) :: (← entries anchored follow shape rest)
      | _ => failure
  | _ => return []

/-- The tree that a node stands for, with so many lists and objects at most inside one another. -/
def follow (anchored : List (Nat × Node)) (levels : Nat) : Shape → Node → Following Tree
  | .skipped, _ => return .unreadable
  | shape, node => do
      match ← node.target anchored, levels with
      | .scalar leaf, _ => return .scalar leaf
      | .list tag nodes, deeper + 1 =>
          return underTag tag (.list (← items (follow anchored deeper) shape 0 nodes))
      | .object tag nodes, deeper + 1 =>
          return underTag tag (.object (← entries anchored (follow anchored deeper) shape nodes))
      | _, _ => failure

end Node

end NetworkTwin.Yaml
