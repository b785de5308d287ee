import NetworkTwin.Document.Scalar
import NetworkTwin.Document.Shape

/-!
Typed reading of trees. A record may be written as an object or as the list of its fields in their
declared order; unknown fields are passed over, repeated ones are not. Nothing is converted: a text
is not a number, a number not a text. Only a scalar without quotes may be read as several kinds.
-/

namespace NetworkTwin

inductive Mismatch where
  | expected (kind : String)
  | missing (field : String)
  | repeated (field : String)
  | surplus
  | outOfRange
  | unknownName (name : String)
deriving DecidableEq, Repr

abbrev Decoded (α : Type) := Except Mismatch α

namespace Tree

/-- A text. A scalar is its own text, whatever it looks like. -/
def asText : Tree → Decoded String
  | .text value => .ok value
  | .scalar leaf => .ok leaf.text
  | _ => .error (.expected "text")

def asBool : Tree → Decoded Bool
  | .bool value => .ok value
  | .scalar leaf =>
      match if leaf.mayBe "bool" then Scalar.boolForm? leaf.text else none with
      | some value => .ok value
      | none => .error (.expected "truth value")
  | _ => .error (.expected "truth value")

/-- A double; whole numbers are numbers too. -/
def asReal : Tree → Decoded Float
  | .number value => .ok value.toFloat
  | .scalar leaf =>
      match if leaf.mayBe "float" then Scalar.realForm? leaf.text else none with
      | some value => .ok value
      | none => .error (.expected "number")
  | _ => .error (.expected "number")

/-- A whole number from zero up to below a bound. -/
def asNatural (bound : Nat) : Tree → Decoded Nat
  | .number (.whole (.ofNat value)) => if value < bound then .ok value else .error .outOfRange
  | .number _ => .error (.expected "natural number")
  | .scalar leaf =>
      match if leaf.mayBe "int" then Scalar.naturalForm? bound leaf.text else none with
      | some value => .ok value
      | none => .error (.expected "natural number")
  | _ => .error (.expected "natural number")

def asUInt64 (tree : Tree) : Decoded UInt64 := (tree.asNatural UInt64.size).map UInt64.ofNat

def asUInt16 (tree : Tree) : Decoded UInt16 := (tree.asNatural UInt16.size).map UInt16.ofNat

def isBlankScalar : Tree → Bool
  | .scalar leaf => leaf.style == .plain && leaf.text.isEmpty
  | _ => false

def asList : Tree → Decoded (List Tree)
  | .list items => .ok items
  | .tagged _ body => body.asList
  | tree => if tree.isBlankScalar then .ok [] else .error (.expected "list")

def asObject : Tree → Decoded (List (String × Tree))
  | .object entries => .ok entries
  | .tagged _ body => body.asObject
  | tree => if tree.isBlankScalar then .ok [] else .error (.expected "object")

/-- Whether an optional field that holds the tree counts as absent. -/
def isAbsent : Tree → Decoded Bool
  | .null => .ok true
  | .scalar leaf =>
      if leaf.style ≠ .plain then .ok false
      else match leaf.tag with
        | none => .ok (leaf.text.isEmpty || Scalar.isNullForm leaf.text)
        | some tag =>
            if tag = Scalar.coreTag "null" then
              if Scalar.isNullForm leaf.text then .ok true else .error (.expected "null")
            else .ok false
  | _ => .ok false

def listOf {α : Type} (decode : Tree → Decoded α) (tree : Tree) : Decoded (List α) := do
  (← tree.asList).mapM decode

def optionOf {α : Type} (decode : Tree → Decoded α) (tree : Tree) : Decoded (Option α) := do
  if ← tree.isAbsent then return none else return some (← decode tree)

/-- A dictionary whose values are all read in one way; of repeated keys the last counts. -/
def dictionaryOf {α : Type} (decode : Tree → Decoded α) (tree : Tree) :
    Decoded (Dictionary α) := do
  let entries ← (← tree.asObject).mapM fun entry => do return (entry.1, ← decode entry.2)
  return Dictionary.ofList entries

mutual

/-- Free-form data. Repeated keys are allowed here, and the last one counts. -/
def asValue : Tree → Decoded Value
  | .null => .ok .null
  | .bool value => .ok (.bool value)
  | .number value => .ok (.number value)
  | .text value => .ok (.text value)
  | .scalar leaf =>
      match leaf.value? with
      | some value => .ok value
      | none => .error (.expected "value")
  | .unreadable => .error .outOfRange
  | .list items => do return .list (← asValues items)
  | .object entries => do return .object (← asValueEntries [] entries)
  | .tagged tag _ => .error (.unknownName tag)

def asValues : List Tree → Decoded (List Value)
  | [] => .ok []
  | item :: rest => do return (← item.asValue) :: (← asValues rest)

def asValueEntries (written : List (String × Value)) :
    List (String × Tree) → Decoded (List (String × Value))
  | [] => .ok written
  | (key, tree) :: rest => do asValueEntries (Entries.put key (← tree.asValue) written) rest

end

def asAttributes (tree : Tree) : Decoded (Dictionary Value) := tree.dictionaryOf asValue

/-- A name out of a fixed set: a text, an object whose only key is the name and whose value is
`null`, or nothing under a tag that is the name. -/
def asName : Tree → Decoded String
  | .text value => .ok value
  | .object [(name, .null)] => .ok name
  | .scalar leaf =>
      match leaf.tag with
      | none => .ok leaf.text
      | some tag =>
          if !tag.startsWith "!" then .ok leaf.text
          else if leaf.style = .plain && (leaf.text.isEmpty || Scalar.isNullForm leaf.text)
          then .ok (String.ofList (tag.toList.drop 1))
          else .error (.expected "name")
  | _ => .error (.expected "name")

def choiceOf {α : Type} (ofName? : String → Option α) (tree : Tree) : Decoded α := do
  let name ← tree.asName
  match ofName? name with
  | some choice => return choice
  | none => throw (.unknownName name)

def repeated? : List (String × Tree) → Option String
  | [] => none
  | (name, _) :: rest => if rest.any (·.1 == name) then some name else repeated? rest

end Tree

/-- The known fields of a record that are written down, by name. -/
structure Fields where
  written : List (String × Tree)

def Tree.asRecord (names : List String) : Tree → Decoded Fields
  | .object entries =>
      let known := entries.filter fun entry => names.contains entry.1
      match repeated? known with
      | some name => .error (.repeated name)
      | none => .ok ⟨known⟩
  | .list items => if items.length ≤ names.length then .ok ⟨names.zip items⟩ else .error .surplus
  | .tagged _ body => body.asRecord names
  | tree => if tree.isBlankScalar then .ok ⟨[]⟩ else .error (.expected "record")

namespace Fields

variable {α : Type}

def required (fields : Fields) (name : String) (decode : Tree → Decoded α) : Decoded α :=
  match fields.written.lookup name with
  | some tree => decode tree
  | none => .error (.missing name)

def withDefault (fields : Fields) (name : String) (fallback : α) (decode : Tree → Decoded α) :
    Decoded α :=
  match fields.written.lookup name with
  | some tree => decode tree
  | none => .ok fallback

def optional (fields : Fields) (name : String) (decode : Tree → Decoded α) : Decoded (Option α) :=
  match fields.written.lookup name with
  | some tree => tree.optionOf decode
  | none => .ok none

end Fields

def Value.record (fields : List (String × Option Value)) : Value :=
  .object (fields.filterMap fun field => field.2.map fun value => (field.1, value))

end NetworkTwin
