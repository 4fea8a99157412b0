import FuncAdapter.Syntax.Expr
import FuncAdapter.Text.Quoted

/-!
# Expressions in messages

A message that rejects an expression shows the tree by its constructors and their arguments.
-/

namespace FuncAdapter

/-- The words for an optional text. -/
def displayOptionalText : Option String → String
  | none => "None"
  | some text => Text.quoted text

mutual

/-- The words for an expression inside a message. -/
def Expr.display : Expr → String
  | .ident name => "Ident(name=" ++ Text.quoted name ++ ")"
  | .array element length =>
      "ArrayType(elt=" ++ element.display ++ ", len=" ++ displayOptionalText length ++ ")"
  | .map key value => "MapType(key=" ++ key.display ++ ", value=" ++ value.display ++ ")"
  | .pointer target => "StarExpr(x=" ++ target.display ++ ")"
  | .selector qualifier name =>
      "SelectorExpr(x=" ++ qualifier.display ++ ", sel=" ++ Text.quoted name ++ ")"
  | .variadic element => "VariadicType(elt=" ++ element.display ++ ")"
  | .func params results =>
      "FuncType(params=[" ++ Text.join ", " (displayFields params) ++ "], results=" ++
        displayResults results ++ ")"
  | .interface methods =>
      "InterfaceType(methods=[" ++ Text.join ", " (displayFields methods) ++ "])"
  | .raw text => "RawExpr(text=" ++ Text.quoted text ++ ")"
  | .call callee arguments spread =>
      "CallExpr(fun=" ++ callee.display ++ ", args=[" ++
        Text.join ", " (displayExprs arguments) ++ "], ellipsis=" ++
        (if spread then "True" else "False") ++ ")"
  | .missing => "None"

/-- The words for each of some expressions. -/
def displayExprs : List Expr → List String
  | [] => []
  | expr :: exprs => expr.display :: displayExprs exprs

/-- The words for each of some fields. -/
def displayFields : List Field → List String
  | [] => []
  | .mk names type :: fields =>
      ("Field(names=" ++ Text.quotedList names ++ ", type=" ++ type.display ++ ")") ::
        displayFields fields

/-- The words for a result list. -/
def displayResults : Option (List Field) → String
  | none => "None"
  | some fields => "[" ++ Text.join ", " (displayFields fields) ++ "]"

end

end FuncAdapter
