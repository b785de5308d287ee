import NetworkTwin.Document.Json.Reader
import NetworkTwin.Document.Yaml.Reader
import NetworkTwin.Text.Blank
import NetworkTwin.Text.LetterCase

/-!
The formats of documents, and the format that the name of a file asks for.
-/

namespace NetworkTwin

/-- The formats of documents: one with braces, one with indentation. -/
inductive Format where
  | json
  | yaml
deriving DecidableEq, Repr

namespace Format

/-- The last component of a path, slashes and lone dots at its end aside. -/
def fileName? (path : String) : Option (List Char) :=
  ((Text.splitAt '/' path.toList).filter fun part => part ≠ [] && part ≠ ['.']).getLast?

/-- What follows the last dot of a file name. A dot at the front starts no extension, and the
parent directory has none. -/
def extension? (name : List Char) : Option String :=
  if name = ['.', '.'] then none
  else match (Text.splitAt '.' name).reverse with
    | ending :: before :: rest =>
        if before.isEmpty && rest.isEmpty then none else some (String.ofList ending)
    | _ => none

/-- The format that a file name asks for by its extension, in any case of its letters. -/
def ofPath? (path : String) : Option Format :=
  match ((fileName? path).bind extension?).map Text.lowerAsciiText with
  | some "json" => some .json
  | some "yaml" => some .yaml
  | some "yml" => some .yaml
  | _ => none

def name : Format → String
  | .json => "json"
  | .yaml => "yaml"

def ofName? : String → Option Format
  | "json" => some .json
  | "yaml" => some .yaml
  | _ => none

def read? (format : Format) (shape : Shape) (text : String) : Option Tree :=
  match format with
  | .json => (Json.read? text).filter fun tree => shape.depth tree ≤ Json.maxDepth
  | .yaml => Yaml.read? shape text

end Format

end NetworkTwin
