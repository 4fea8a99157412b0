import FuncAdapter.Document.Malformed
import FuncAdapter.Syntax.Display

/-!
# Expressions as documents

An expression is written as a map whose `node` entry names its shape and whose other entries hold
its parts.  Calls and missing nodes have no document; `encode` refuses a tree that contains one and
names the first it meets.

Reading accepts more than writing produces: unknown entries are ignored, and the lists of names,
parameters and methods may be absent.
-/

namespace FuncAdapter

/-- A list of texts as a document. -/
def textsDocument (texts : List String) : Document :=
  .list (texts.map Document.text)

/-- An optional text as a document. -/
def optionalTextDocument : Option String → Document
  | none => .null
  | some text => .text text

mutual

/-- The document of an expression; a call or a missing node leaves null behind. -/
def Expr.toDocument : Expr → Document
  | .ident name => .record [("node", .text "Ident"), ("name", .text name)]
  | .array element length =>
      .record
        [("node", .text "ArrayType"), ("elt", element.toDocument),
          ("len", optionalTextDocument length)]
  | .map key value =>
      .record
        [("node", .text "MapType"), ("key", key.toDocument), ("value", value.toDocument)]
  | .pointer target => .record [("node", .text "StarExpr"), ("x", target.toDocument)]
  | .selector qualifier name =>
      .record
        [("node", .text "SelectorExpr"), ("x", qualifier.toDocument), ("sel", .text name)]
  | .variadic element => .record [("node", .text "Ellipsis"), ("elt", element.toDocument)]
  | .func params results =>
      .record
        [("node", .text "FuncType"), ("params", .list (fieldDocuments params)),
          ("results", resultsDocument results)]
  | .interface methods =>
      .record [("node", .text "InterfaceType"), ("methods", .list (fieldDocuments methods))]
  | .raw text => .record [("node", .text "Raw"), ("text", .text text)]
  | .call _ _ _ => .null
  | .missing => .null

/-- The documents of fields. -/
def fieldDocuments : List Field → List Document
  | [] => []
  | .mk names type :: fields =>
      .record [("names", textsDocument names), ("type", type.toDocument)] ::
        fieldDocuments fields

/-- The document of a list of fields that may be absent. -/
def resultsDocument : Option (List Field) → Document
  | none => .null
  | some fields => .list (fieldDocuments fields)

end

/-- The document of a list of fields. -/
def fieldsDocument (fields : List Field) : Document :=
  .list (fieldDocuments fields)

mutual

/-- The first call or missing node of an expression, in the order in which the tree is written. -/
def Expr.foreign? : Expr → Option Expr
  | .ident _ => none
  | .array element _ => element.foreign?
  | .map key value => key.foreign? <|> value.foreign?
  | .pointer target => target.foreign?
  | .selector qualifier _ => qualifier.foreign?
  | .variadic element => element.foreign?
  | .func params results => fieldsForeign? params <|> resultsForeign? results
  | .interface methods => fieldsForeign? methods
  | .raw _ => none
  | .call callee arguments spread => some (.call callee arguments spread)
  | .missing => some .missing

/-- The first call or missing node of some fields. -/
def fieldsForeign? : List Field → Option Expr
  | [] => none
  | .mk _ type :: fields => type.foreign? <|> fieldsForeign? fields

/-- The first call or missing node of a list of fields that may be absent. -/
def resultsForeign? : Option (List Field) → Option Expr
  | none => none
  | some fields => fieldsForeign? fields

end

/-- Why an expression has no document. -/
inductive EncodeError where
  | foreign (expr : Expr)

/-- The words for an expression that has no document. -/
def EncodeError.message : EncodeError → String
  | .foreign expr => "cannot encode expression " ++ expr.display

/-- The document of an expression without calls and missing nodes. -/
def Expr.encode (expr : Expr) : Except EncodeError Document :=
  match expr.foreign? with
  | some inner => .error (.foreign inner)
  | none => .ok expr.toDocument

/-- The length of an array under its entry: text, or absent for a slice. -/
def arrayLengthOf (entries : List (Label × Document)) : Except Malformed (Option String) :=
  match Document.valueAt "len" entries with
  | .null => .ok none
  | .text length => .ok (some length)
  | _ => .error .arrayLength

/-- The texts of a list, if all its items are texts. -/
def textsOf : List Document → Except Malformed (List String)
  | [] => .ok []
  | .text text :: items => (textsOf items).map (text :: ·)
  | _ :: _ => .error .fieldNames

/-- The names of a field under their entry, which may be absent. -/
def fieldNamesOf (entries : List (Label × Document)) : Except Malformed (List String) :=
  match Document.valueAt "names" entries with
  | .null => .ok []
  | .list items => textsOf items
  | other => .error (.entry "names" .list other.shape)

mutual

/-- The expression that a document stands for. -/
def Expr.ofDocument : Document → Except Malformed Expr
  | .map entries => do
      match ← Document.requireText "node" entries with
      | "Ident" => return .ident (← Document.requireText "name" entries)
      | "ArrayType" =>
          let length ← arrayLengthOf entries
          return .array (← exprAt "elt" entries) length
      | "MapType" => return .map (← exprAt "key" entries) (← exprAt "value" entries)
      | "StarExpr" => return .pointer (← exprAt "x" entries)
      | "SelectorExpr" =>
          return .selector (← exprAt "x" entries) (← Document.requireText "sel" entries)
      | "Ellipsis" => return .variadic (← exprAt "elt" entries)
      | "FuncType" => return .func (← fieldsAt "params" entries) (← resultsAt "results" entries)
      | "InterfaceType" => return .interface (← fieldsAt "methods" entries)
      | "Raw" => return .raw (← Document.requireText "text" entries)
      | tag => throw (.node tag)
  | other => .error (.noMap "node" other.shape)

/-- The expression under a label. -/
def exprAt (label : String) : List (Label × Document) → Except Malformed Expr
  | [] => .error (.noMap "node" .null)
  | (other, document) :: entries =>
      if other = .text label then Expr.ofDocument document else exprAt label entries

/-- The fields under a label, none if there is no such entry. -/
def fieldsAt (label : String) : List (Label × Document) → Except Malformed (List Field)
  | [] => .ok []
  | (other, document) :: entries =>
      if other = .text label then fieldsOfDocument document else fieldsAt label entries

/-- The fields under a label, if there is such an entry. -/
def resultsAt (label : String) :
    List (Label × Document) → Except Malformed (Option (List Field))
  | [] => .ok none
  | (other, document) :: entries =>
      if other = .text label then resultsOfDocument document else resultsAt label entries

/-- The fields that a document stands for, where null stands for none. -/
def fieldsOfDocument : Document → Except Malformed (List Field)
  | .null => .ok []
  | .list items => fieldsOfItems items
  | other => .error (.fieldList other.shape)

/-- The list of fields that a document stands for, where null stands for no list. -/
def resultsOfDocument : Document → Except Malformed (Option (List Field))
  | .null => .ok none
  | .list items => (fieldsOfItems items).map some
  | other => .error (.fieldList other.shape)

/-- The fields that the items of a list stand for. -/
def fieldsOfItems : List Document → Except Malformed (List Field)
  | [] => .ok []
  | item :: items => do
      let field ← fieldOfDocument item
      let fields ← fieldsOfItems items
      return field :: fields

/-- The field that a document stands for. -/
def fieldOfDocument : Document → Except Malformed Field
  | .map entries => do
      let names ← fieldNamesOf entries
      let type ← exprAt "type" entries
      return .mk names type
  | other => .error (.field other.shape)

end

end FuncAdapter
