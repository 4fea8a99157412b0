import FuncAdapter.Syntax.Expr

/-!
# Declarations

A generated file consists of type declarations and functions.  Bodies need two statements only: a
return and an expression in statement position.
-/

namespace FuncAdapter

/-- A type declaration; a generic type has type parameters. -/
structure TypeSpec where
  name : String
  type : Expr
  typeParams : Option (List Field) := none

/-- A statement of a function body. -/
inductive Stmt where
  | result (values : List Expr)
  | expression (value : Expr)
  /-- No statement. -/
  | missing

/-- A declaration at the top of a file. -/
inductive Decl where
  | types (specs : List TypeSpec)
  | func (receiver : Option Field) (name : String) (signature : Signature) (body : List Stmt)
  /-- No declaration. -/
  | missing

end FuncAdapter
