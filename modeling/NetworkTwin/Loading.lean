import NetworkTwin.Document.Format
import NetworkTwin.Scenario.Wire

/-!
Loading topologies and scenarios from texts and files. What is loaded has the right shape and keeps
to the schema. A file is read before its name is looked at.
-/

namespace NetworkTwin

inductive LoadError where
  | unreadable
  | malformed (format : Format)
  | unknownFormat (path : String)
  | schema (violation : SchemaViolation)

/-- The error in words, where there is more to say than that the file or its text is bad. -/
def LoadError.detail? : LoadError → Option String
  | .unreadable => none
  | .malformed _ => none
  | .unknownFormat path => some ("unknown format: " ++ path)
  | .schema violation => some violation.message

/-- How a text in some format is read as an item, if it can be. Commands load by whatever reading
there is; the standard ones are below. -/
class Readable (α : Type) where
  read? : Format → String → Option α

class Loadable (α : Type) extends Readable α where
  checkSchema : α → Except SchemaViolation Unit

def Format.load? {α : Type} (format : Format) (shape : Shape) (decode : Tree → Decoded α)
    (text : String) : Option α := do
  let tree ← format.read? shape text
  (decode tree).toOption

instance : Readable Graph := ⟨fun format => format.load? Graph.shape Graph.decode⟩

instance : Readable Scenario := ⟨fun format => format.load? Scenario.shape Scenario.decode⟩

instance [Readable Graph] : Loadable Graph := ⟨Graph.checkSchema⟩

instance [Readable Scenario] : Loadable Scenario := ⟨Scenario.checkSchema⟩

namespace Loadable

variable {α : Type} [Loadable α]

def ofText (format : Format) (text : String) : Except LoadError α :=
  match Readable.read? format text with
  | none => .error (.malformed format)
  | some item =>
      match checkSchema item with
      | .ok () => .ok item
      | .error violation => .error (.schema violation)

theorem of_text_eq_ok_iff {format : Format} {text : String} {item : α} :
    ofText format text = .ok item ↔
      Readable.read? format text = some item ∧ checkSchema item = .ok () := by
  constructor
  · intro loaded
    unfold ofText at loaded
    cases read : (Readable.read? format text : Option α) with
    | none =>
        rw [read] at loaded
        cases loaded
    | some found =>
        cases checked : checkSchema found with
        | ok done =>
            simp only [read, checked] at loaded
            obtain rfl := Except.ok.inj loaded
            exact ⟨rfl, checked⟩
        | error violation =>
            simp only [read, checked] at loaded
            cases loaded
  · rintro ⟨read, checked⟩
    simp only [ofText, read, checked]

/-- What a file holds, given its content if it has one. -/
def ofFile (path : String) (content : Option ByteArray) : Except LoadError α :=
  match content.bind String.fromUTF8? with
  | none => .error .unreadable
  | some text =>
      match Format.ofPath? path with
      | none => .error (.unknownFormat path)
      | some format => ofText format text

theorem of_file_eq_ok_iff {path : String} {content : Option ByteArray} {item : α} :
    ofFile path content = .ok item ↔
      ∃ text format, content.bind String.fromUTF8? = some text ∧
        Format.ofPath? path = some format ∧ ofText format text = .ok item := by
  unfold ofFile
  cases content.bind String.fromUTF8? with
  | none => simp
  | some text => cases Format.ofPath? path <;> simp

end Loadable

end NetworkTwin
