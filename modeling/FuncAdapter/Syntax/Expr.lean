/-!
# Type expressions

The Go expressions that declarations are made of.  The shapes that naming and generation look into
are taken apart; any other expression is kept as the text of its source.

A field binds names to one type: parameters, results and interface methods are all lists of fields.
`missing` marks a place where a tree has no node; trees that are read from documents have none.
-/

namespace FuncAdapter

mutual

/-- A Go expression. -/
inductive Expr where
  /-- A plain name. -/
  | ident (name : String)
  /-- A slice, or an array when there is a length, which is kept as source text. -/
  | array (element : Expr) (length : Option String)
  | map (key value : Expr)
  | pointer (target : Expr)
  /-- A name in a package, such as `context.Context`. -/
  | selector (qualifier : Expr) (name : String)
  /-- The type of a final parameter that takes any number of arguments. -/
  | variadic (element : Expr)
  /-- A function type; no result list at all differs from an empty one. -/
  | func (params : List Field) (results : Option (List Field))
  | interface (methods : List Field)
  /-- Source text that is not taken apart. -/
  | raw (text : String)
  /-- A call, which spreads its last argument when `spread` is set. -/
  | call (callee : Expr) (arguments : List Expr) (spread : Bool)
  /-- No node. -/
  | missing

/-- Names that share one type; a field without names still stands for one value. -/
inductive Field where
  | mk (names : List String) (type : Expr)

end

namespace Field

/-- The names that a field binds. -/
def names : Field → List String
  | .mk names _ => names

/-- The type of a field. -/
def type : Field → Expr
  | .mk _ type => type

@[simp]
theorem names_mk (names : List String) (type : Expr) : (Field.mk names type).names = names := rfl

@[simp]
theorem type_mk (names : List String) (type : Expr) : (Field.mk names type).type = type := rfl

@[simp]
theorem mk_names_type (field : Field) : Field.mk field.names field.type = field := by
  cases field
  rfl

end Field

/-- The parameters and results of a function. -/
structure Signature where
  params : List Field
  results : Option (List Field)

namespace Signature

/-- The function type with a signature. -/
def toExpr (signature : Signature) : Expr :=
  .func signature.params signature.results

/-- Whether a call gives back a value. -/
def returnsValue (signature : Signature) : Bool :=
  match signature.results with
  | none => false
  | some results => !results.isEmpty

end Signature

/-- The signature of a function type. -/
def Expr.signature? : Expr → Option Signature
  | .func params results => some ⟨params, results⟩
  | _ => none

@[simp]
theorem Expr.signature?_toExpr (signature : Signature) :
    signature.toExpr.signature? = some signature := rfl

/-- Whether an expression is the type of a parameter that takes any number of arguments. -/
def Expr.isVariadic : Expr → Bool
  | .variadic _ => true
  | _ => false

end FuncAdapter
