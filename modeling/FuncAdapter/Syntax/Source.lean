import FuncAdapter.Syntax.Decl
import FuncAdapter.Text.Join

/-!
# Go source text

Declarations are written the way the standard formatter lays them out.  Every tree has a text in
which a missing node leaves nothing behind; `render` refuses trees with a missing node instead.

The text of a signature is shared by function types, methods of interfaces and function
declarations: parameters in parentheses, a single unnamed result bare, other results in parentheses.
-/

namespace FuncAdapter

/-- Names in front of what they bind, or nothing in front when there are none. -/
def namedText (names : List String) (text : String) : String :=
  match names with
  | [] => text
  | _ :: _ => Text.join ", " names ++ " " ++ text

mutual

/-- The source text of an expression. -/
def Expr.text : Expr → String
  | .ident name => name
  | .array element length => "[" ++ length.getD "" ++ "]" ++ element.text
  | .map key value => "map[" ++ key.text ++ "]" ++ value.text
  | .pointer target => "*" ++ target.text
  | .selector qualifier name => qualifier.text ++ "." ++ name
  | .variadic element => "..." ++ element.text
  | .func params results =>
      "func" ++ "(" ++ Text.join ", " (fieldTexts params) ++ ")" ++ resultsText results
  | .interface [] => "interface\x7b\x7d"
  | .interface (method :: methods) =>
      "interface\x7b " ++ Text.join "; " (methodTexts (method :: methods)) ++ " \x7d"
  | .raw text => text
  | .call callee arguments spread =>
      callee.text ++ "(" ++ Text.join ", " (exprTexts arguments) ++
        (if spread then "..." else "") ++ ")"
  | .missing => ""

/-- The source texts of expressions. -/
def exprTexts : List Expr → List String
  | [] => []
  | expr :: exprs => expr.text :: exprTexts exprs

/-- The source texts of parameters or results. -/
def fieldTexts : List Field → List String
  | [] => []
  | .mk names type :: fields => namedText names type.text :: fieldTexts fields

/-- The source texts of the entries of an interface. -/
def methodTexts : List Field → List String
  | [] => []
  | .mk (name :: _) (.func params results) :: fields =>
      (name ++ "(" ++ Text.join ", " (fieldTexts params) ++ ")" ++ resultsText results) ::
        methodTexts fields
  | .mk names type :: fields => namedText names type.text :: methodTexts fields

/-- The source text of results, with the blank that separates them from the parameters. -/
def resultsText : Option (List Field) → String
  | none => ""
  | some [] => ""
  | some [.mk [] type] => " " ++ type.text
  | some (field :: fields) =>
      " (" ++ Text.join ", " (fieldTexts (field :: fields)) ++ ")"

end

/-- The source text of a list of parameters. -/
def fieldsText (fields : List Field) : String :=
  Text.join ", " (fieldTexts fields)

/-- The source text of a signature. -/
def Signature.text (signature : Signature) : String :=
  "(" ++ fieldsText signature.params ++ ")" ++ resultsText signature.results

/-- The source text of a statement. -/
def Stmt.text : Stmt → String
  | .result [] => "return"
  | .result (value :: values) => "return " ++ Text.join ", " (exprTexts (value :: values))
  | .expression value => value.text
  | .missing => ""

/-- The source text of one declared type. -/
def TypeSpec.text (spec : TypeSpec) : String :=
  spec.name ++ " " ++ spec.type.text

/-- The source text of a receiver, with the blank that separates it from the function name. -/
def receiverText : Option Field → String
  | none => ""
  | some receiver => "(" ++ fieldsText [receiver] ++ ") "

/-- The source text of a declaration. -/
def Decl.text : Decl → String
  | .types [spec] => "type " ++ spec.text
  | .types specs =>
      Text.join "\n" (["type ("] ++ specs.map (fun spec => "\t" ++ spec.text) ++ [")"])
  | .func receiver name signature body =>
      Text.join "\n"
        (["func " ++ receiverText receiver ++ name ++ signature.text ++ " \x7b"] ++
          body.map (fun stmt => "\t" ++ stmt.text) ++ ["\x7d"])
  | .missing => ""

/-- The source text of a file: declarations divided by blank lines, and a newline at the end. -/
def sourceText (decls : List Decl) : String :=
  Text.join "\n\n" (decls.map Decl.text) ++ "\n"

mutual

/-- Whether no node of an expression is missing. -/
def Expr.complete : Expr → Bool
  | .ident _ => true
  | .array element _ => element.complete
  | .map key value => key.complete && value.complete
  | .pointer target => target.complete
  | .selector qualifier _ => qualifier.complete
  | .variadic element => element.complete
  | .func params results => fieldsComplete params && resultsComplete results
  | .interface methods => fieldsComplete methods
  | .raw _ => true
  | .call callee arguments _ => callee.complete && exprsComplete arguments
  | .missing => false

/-- Whether no node of some expressions is missing. -/
def exprsComplete : List Expr → Bool
  | [] => true
  | expr :: exprs => expr.complete && exprsComplete exprs

/-- Whether no node of some fields is missing. -/
def fieldsComplete : List Field → Bool
  | [] => true
  | .mk _ type :: fields => type.complete && fieldsComplete fields

/-- Whether no node of a result list is missing. -/
def resultsComplete : Option (List Field) → Bool
  | none => true
  | some fields => fieldsComplete fields

end

/-- Whether no node of a statement is missing. -/
def Stmt.complete : Stmt → Bool
  | .result values => exprsComplete values
  | .expression value => value.complete
  | .missing => false

/-- Whether no node of a declaration is missing; type parameters, which are not written, aside. -/
def Decl.complete : Decl → Bool
  | .types specs => specs.all fun spec => spec.type.complete
  | .func receiver _ signature body =>
      (match receiver with
        | none => true
        | some field => field.type.complete) &&
      fieldsComplete signature.params && resultsComplete signature.results &&
      body.all Stmt.complete
  | .missing => false

/-- Why declarations cannot be written. -/
inductive RenderError where
  | missingNode
  deriving DecidableEq, Repr

/-- The words for a tree that cannot be written. -/
def RenderError.message : RenderError → String
  | .missingNode => "cannot render None"

/-- The source text of complete declarations. -/
def render (decls : List Decl) : Except RenderError String :=
  if decls.all Decl.complete then
    .ok (sourceText decls)
  else
    .error .missingNode

end FuncAdapter
