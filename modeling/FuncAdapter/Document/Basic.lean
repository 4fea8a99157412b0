import FuncAdapter.Table
import FuncAdapter.Text.Quoted

/-!
# Documents

A document is a plain value: nothing, a truth value, a number, text, bytes, a list or a map.  It is
what the external formats carry and what a program is written to and read from.

Maps keep their entries in order, and their labels are text or bytes; a text label and a byte label
differ even when the bytes spell the text.  Extensions and timestamps occur only in the binary
format.
-/

namespace FuncAdapter

/-- The label of a map entry. -/
inductive Label where
  | text (value : String)
  | bytes (value : List UInt8)
  deriving DecidableEq, Repr

/-- The words for a label inside a message: text as it is, bytes between quotes. -/
def Label.display : Label → String
  | .text value => value
  | .bytes value => Text.quotedBytes value

/-- A plain value; a real number is given by the bits of its binary64 form. -/
inductive Document where
  | null
  | boolean (value : Bool)
  | integer (value : Int)
  | real (bits : UInt64)
  | text (value : String)
  | bytes (value : List UInt8)
  | extension (code : Nat) (payload : List UInt8)
  | timestamp (seconds : Int) (nanoseconds : Nat)
  | list (items : List Document)
  | map (entries : List (Label × Document))

/-- The kind of value that a document is. -/
inductive Shape where
  | null
  | boolean
  | integer
  | real
  | text
  | bytes
  | extension
  | timestamp
  | list
  | map
  deriving DecidableEq, Repr

/-- The word for a kind of value in messages. -/
def Shape.word : Shape → String
  | .null => "NoneType"
  | .boolean => "bool"
  | .integer => "int"
  | .real => "float"
  | .text => "str"
  | .bytes => "bytes"
  | .extension => "ExtType"
  | .timestamp => "Timestamp"
  | .list => "list"
  | .map => "dict"

namespace Document

/-- The kind of a document. -/
def shape : Document → Shape
  | .null => .null
  | .boolean _ => .boolean
  | .integer _ => .integer
  | .real _ => .real
  | .text _ => .text
  | .bytes _ => .bytes
  | .extension _ _ => .extension
  | .timestamp _ _ => .timestamp
  | .list _ => .list
  | .map _ => .map

/-- The value under a text label, where an absent entry counts as null. -/
def valueAt (label : String) (entries : List (Label × Document)) : Document :=
  (Entries.find? (Label.text label) entries).getD .null

/-- A map whose labels are all text. -/
def record (entries : List (String × Document)) : Document :=
  .map (entries.map fun entry => (Label.text entry.1, entry.2))

end Document

end FuncAdapter
