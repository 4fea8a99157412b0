import FuncAdapter.Document.Basic

/-!
# Documents that are not programs

Why a document cannot be read as a program or a part of one, and the words for it.
-/

namespace FuncAdapter

/-- Why a document does not have the expected form. -/
inductive Malformed where
  /-- A map with the given entry was expected. -/
  | noMap (label : String) (found : Shape)
  /-- The entry has the wrong kind of value. -/
  | entry (label : String) (expected found : Shape)
  /-- The length of an array is neither text nor null. -/
  | arrayLength
  /-- A list of fields is not a list. -/
  | fieldList (found : Shape)
  /-- A field is not a map. -/
  | field (found : Shape)
  /-- The names of a field are not all text. -/
  | fieldNames
  /-- No expression has this tag. -/
  | node (tag : String)
  /-- The object is of no known kind. -/
  | kind (word : String) (name : Label)
  /-- The declaration of the object is not a map. -/
  | declaration (name : Label)
  deriving DecidableEq, Repr

/-- The words for a malformed document. -/
def Malformed.message : Malformed → String
  | .noMap label found => "expected object with " ++ Text.quoted label ++ ", got " ++ found.word
  | .entry label expected found =>
      Text.quoted label ++ " must be " ++ expected.word ++ ", got " ++ found.word
  | .arrayLength => "\x27len\x27 must be str or null"
  | .fieldList found => "field list must be a list, got " ++ found.word
  | .field found => "field must be an object, got " ++ found.word
  | .fieldNames => "field names must be strings"
  | .node tag => "unknown node " ++ Text.quoted tag
  | .kind word name => "unknown object kind " ++ Text.quoted word ++ " for " ++ name.display
  | .declaration name => "decl of " ++ name.display ++ " must be an object"

namespace Document

/-- The text that a map has to hold under a label. -/
def requireText (label : String) (entries : List (Label × Document)) : Except Malformed String :=
  match valueAt label entries with
  | .text value => .ok value
  | other => .error (.entry label .text other.shape)

/-- The entries of the map that a document has to hold under a label. -/
def requireMap (label : String) : Document → Except Malformed (List (Label × Document))
  | .map entries =>
      match valueAt label entries with
      | .map inner => .ok inner
      | other => .error (.entry label .map other.shape)
  | other => .error (.noMap label other.shape)

end Document

end FuncAdapter
