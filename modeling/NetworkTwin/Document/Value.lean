import NetworkTwin.Dictionary

/-!
Free-form data: what properties, metadata and evidence hold, and what every document of the model
is written as.
-/

namespace NetworkTwin

/-- A number of a document. Whole numbers that 64 bits hold are kept apart from all others. -/
inductive Number where
  | whole (value : Int)
  | real (value : Float)

def Number.toFloat : Number → Float
  | .whole value => Float.ofInt value
  | .real value => value

/-- Free-form data. The entries of an object stand in the order in which they are written. -/
inductive Value where
  | null
  | bool (value : Bool)
  | number (value : Number)
  | text (value : String)
  | list (items : List Value)
  | object (entries : List (String × Value))

namespace Value

instance : Inhabited Value := ⟨.null⟩

def natural (value : Nat) : Value := .number (.whole (Int.ofNat value))

/-- A double. What is not finite has no written form and becomes `null`. -/
def real (value : Float) : Value :=
  if value.isFinite then .number (.real value) else .null

def texts (items : List String) : Value := .list (items.map .text)

def ofOption (value : Option Value) : Value := value.getD .null

mutual

def depth : Value → Nat
  | .list items => depthOfList items + 1
  | .object entries => depthOfEntries entries + 1
  | _ => 0

def depthOfList : List Value → Nat
  | [] => 0
  | item :: rest => max item.depth (depthOfList rest)

def depthOfEntries : List (String × Value) → Nat
  | [] => 0
  | (_, value) :: rest => max value.depth (depthOfEntries rest)

end

mutual

/-- The value with the entries of every object in the order of their keys, of two entries with one
key the later. -/
def normalize : Value → Value
  | .list items => .list (normalizeList items)
  | .object entries => .object (normalizeEntries [] entries)
  | value => value

def normalizeList : List Value → List Value
  | [] => []
  | item :: rest => item.normalize :: normalizeList rest

def normalizeEntries (written : List (String × Value)) :
    List (String × Value) → List (String × Value)
  | [] => written
  | (key, value) :: rest => normalizeEntries (Entries.put key value.normalize written) rest

end

/-- Whether a value counts as switched on: `true`, a number other than zero, a text that is not
empty, any list and any object. -/
def truthy : Value → Bool
  | .null => false
  | .bool value => value
  | .number value => value.toFloat != 0 && !value.toFloat.isNaN
  | .text value => !value.isEmpty
  | .list _ => true
  | .object _ => true

def text? : Value → Option String
  | .text value => some value
  | _ => none

end Value

end NetworkTwin
