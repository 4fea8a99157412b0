import FuncAdapter.Syntax.Expr
import FuncAdapter.Text.LetterCase

/-!
# Names inferred from types

A parameter without a name takes one from its type.  The name of a type is made unexported: the
capitals it begins with are lowered, except that the last capital of a longer run starts the next
word and is kept.  Pointers are looked through, and slices, arrays and maps take the plural of what
they hold.
-/

namespace FuncAdapter.Naming

/-- Lower the capitals that the characters of a name begin with. -/
def unexportedCharacters (characters : List Char) : List Char :=
  let capitals := characters.takeWhile fun character => !Text.isLowercase character
  let rest := characters.dropWhile fun character => !Text.isLowercase character
  let lowered := if rest.isEmpty ∨ capitals.length ≤ 1 then capitals else capitals.dropLast
  Text.lowerCharacters lowered ++ characters.drop lowered.length

/-- The unexported form of a name. -/
def unexported (name : String) : String :=
  String.ofList (unexportedCharacters name.toList)

/-- The name for a parameter whose type suggests none. -/
def fallbackName : String := "v"

/-- The name for a selected type; contexts go by their usual name. -/
def selectedName (qualifier : Expr) (name : String) : String :=
  match qualifier with
  | .ident "context" => if name = "Context" then "ctx" else unexported name
  | _ => unexported name

/-- The name for a parameter of a type. -/
def inferred : Expr → String
  | .array element _ => inferred element ++ "s"
  | .map _ value => inferred value ++ "s"
  | .pointer target => inferred target
  | .ident name => unexported name
  | .selector qualifier name => selectedName qualifier name
  | _ => fallbackName

end FuncAdapter.Naming
