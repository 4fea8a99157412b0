import FuncAdapter.Text.CaseTable

/-!
# Letter case

Lower-casing works on whole texts, because two characters do not have a lower-case form of one
character each.  The capital dotted I becomes a small i followed by a combining dot, and the capital
sigma has one form inside a word and another at the end of a word.

A sigma ends a word when a cased character stands before it and none stands after it.  Characters
that casing ignores, such as apostrophes and accents, are looked past on both sides.
-/

namespace FuncAdapter.Text

/-- Whether a character has the lower-case property. -/
def isLowercase (character : Char) : Bool :=
  CodeRange.cover lowercaseRanges character

/-- Whether a character is lower case, upper case or title case. -/
def isCased (character : Char) : Bool :=
  CodeRange.cover casedRanges character

/-- Whether casing looks past a character. -/
def isCaseIgnorable (character : Char) : Bool :=
  CodeRange.cover caseIgnorableRanges character

/-- The lower-case form of a character that has one of a single character, else the character. -/
def lowerSimple (character : Char) : Char :=
  match lowerShifts.find? fun shift => shift.source.contains character.toNat with
  | some shift => Char.ofNat (character.toNat + shift.distance).toNat
  | none => character

/-- Whether the nearest character that casing does not look past is cased. -/
def meetsCased (characters : List Char) : Bool :=
  (characters.find? fun character => !isCaseIgnorable character).any isCased

/--
The lower-case form of one character between its neighbours.  The characters before it are given
nearest first.
-/
def lowerAt (before : List Char) (character : Char) (after : List Char) : List Char :=
  if character = 'Σ' then
    if meetsCased before && !meetsCased after then ['ς'] else ['σ']
  else if character = 'İ' then
    ['i', '\u0307']
  else
    [lowerSimple character]

/-- The lower-case form of the characters that follow `before`, which is given nearest first. -/
def lowerFrom (before : List Char) : List Char → List Char
  | [] => []
  | character :: after =>
      lowerAt before character after ++ lowerFrom (character :: before) after

/-- The lower-case form of a sequence of characters. -/
def lowerCharacters (characters : List Char) : List Char :=
  lowerFrom [] characters

@[simp]
theorem lowerCharacters_nil : lowerCharacters [] = [] := rfl

end FuncAdapter.Text
