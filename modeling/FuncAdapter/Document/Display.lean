import FuncAdapter.Document.Basic
import FuncAdapter.Number.Literal

/-!
# Documents in messages

A message that rejects a document shows it: lists between brackets, maps between braces with their
labels, text and bytes between quotes.
-/

namespace FuncAdapter.Document

mutual

/-- The words for a document inside a message. -/
def display : Document → String
  | .null => "None"
  | .boolean true => "True"
  | .boolean false => "False"
  | .integer value => value.repr
  | .real bits => Number.literal bits
  | .text value => Text.quoted value
  | .bytes value => Text.quotedBytes value
  | .extension code payload =>
      "ExtType(code=" ++ code.repr ++ ", data=" ++ Text.quotedBytes payload ++ ")"
  | .timestamp seconds nanoseconds =>
      "Timestamp(seconds=" ++ seconds.repr ++ ", nanoseconds=" ++ nanoseconds.repr ++ ")"
  | .list items => "[" ++ Text.join ", " (displayItems items) ++ "]"
  | .map entries => "\x7b" ++ Text.join ", " (displayEntries entries) ++ "\x7d"

/-- The words for each item of a list. -/
def displayItems : List Document → List String
  | [] => []
  | item :: items => item.display :: displayItems items

/-- The words for each entry of a map. -/
def displayEntries : List (Label × Document) → List String
  | [] => []
  | (.text label, item) :: entries =>
      (Text.quoted label ++ ": " ++ item.display) :: displayEntries entries
  | (.bytes label, item) :: entries =>
      (Text.quotedBytes label ++ ": " ++ item.display) :: displayEntries entries

end

end FuncAdapter.Document
