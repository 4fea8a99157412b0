import FuncAdapter.Naming.Distinct
import FuncAdapter.Naming.TypeName
import FuncAdapter.Program.Target
import FuncAdapter.Syntax.Source

/-!
# Adapters

For an interface with one method the generator writes a function type with the signature of the
method, and a method on that type which calls the function.  Every value of the function type then
implements the interface.

The adapter forwards its parameters by name, so each needs one: unnamed and blank parameters are
named after their types, and all names are made distinct.
-/

namespace FuncAdapter

namespace Adapter

/-- The name of the receiver, through which the adapter calls the function. -/
def receiverName : String := "fn"

/-- The name under which Go discards a parameter. -/
def blankName : String := "_"

/-- The name of the function type of a target. -/
def typeName (target : Target) : String := target.spec.name ++ "Func"

/-- The names of a parameter field before they are made distinct. -/
def draftNames (field : Field) : List String :=
  match field.names with
  | [] => [Naming.inferred field.type]
  | names => names.map fun name => if name = blankName then Naming.inferred field.type else name

/-- Fields with new names and their old types. -/
def rename (fields : List Field) (names : List (List String)) : List Field :=
  List.zipWith (fun field group => Field.mk group field.type) fields names

/-- The parameters of the adapter: those of the method, each with a name of its own. -/
def params (signature : Signature) : Except Naming.NotDistinct (List Field) :=
  (Naming.distinctNames (signature.params.map draftNames)).map (rename signature.params)

/-- Whether the last parameter takes any number of arguments. -/
def spreads (fields : List Field) : Bool :=
  fields.getLast?.any fun field => field.type.isVariadic

/-- The call of the function with all parameters in order. -/
def forwardingCall (fields : List Field) : Expr :=
  .call (.ident receiverName) (fields.flatMap fun field => field.names.map Expr.ident)
    (spreads fields)

/-- The body of the adapter, which returns what the call gives back if it gives back anything. -/
def body (fields : List Field) (returnsValue : Bool) : Stmt :=
  if returnsValue then
    .result [forwardingCall fields]
  else
    .expression (forwardingCall fields)

/-- The declaration of the function type. -/
def typeDecl (target : Target) : Decl :=
  .types [⟨typeName target, target.signature.toExpr, none⟩]

/-- The declaration of the adapter method. -/
def methodDecl (target : Target) : Except Naming.NotDistinct Decl := do
  let fields ← params target.signature
  return .func (some (.mk [receiverName] (.ident (typeName target)))) target.methodName
    ⟨fields, target.signature.results⟩ [body fields target.signature.returnsValue]

/-- Why no adapter was generated. -/
inductive Failure where
  | refused (refusal : Refusal)
  | notDistinct (failure : Naming.NotDistinct)
  deriving DecidableEq, Repr

/-- The words for a failure. -/
def Failure.message : Failure → String
  | .refused refusal => refusal.message
  | .notDistinct failure => failure.message

/-- The function type and the adapter for the interface that a query names. -/
def generate (query : Query) (program : Program) : Except Failure (List Decl) := do
  let target ← (Target.resolve query program).mapError Failure.refused
  let method ← (methodDecl target).mapError Failure.notDistinct
  return [typeDecl target, method]

end Adapter

end FuncAdapter
