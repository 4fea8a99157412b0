import FuncAdapter.Program.Basic
import FuncAdapter.Text.Join

/-!
# Target interfaces

An adapter is generated for an interface with a single method.  The name is looked up in the
packages and files of a program in order, and the first file that binds it decides: a later binding
is never looked at.

A refusal says why the name does not stand for such an interface.  All refusals but one show the
name qualified by the location that the user gave.
-/

namespace FuncAdapter

/-- The place where a name is bound. -/
structure Binding where
  package : Label
  file : Label
  object : Object

/-- The first file of a package that binds a name. -/
def findInFiles
    (package : Label) (name : String) : List (Label × File) → Option Binding
  | [] => none
  | (label, file) :: files =>
      match file.objects.find? (.text name) with
      | some object => some ⟨package, label, object⟩
      | none => findInFiles package name files

/-- The first file of some packages that binds a name. -/
def findInPackages (name : String) : List (Label × Package) → Option Binding
  | [] => none
  | (label, package) :: packages =>
      match findInFiles label name package.files.entries with
      | some binding => some binding
      | none => findInPackages name packages

/-- The first binding of a name, in package order and then in file order. -/
def Program.find? (program : Program) (name : String) : Option Binding :=
  findInPackages name program.packages.entries

/-- A name as the user gave it, with the location of the program. -/
structure Query where
  location : String
  name : String
  deriving DecidableEq, Repr

/-- The name qualified by the location. -/
def Query.qualified (query : Query) : String :=
  query.location ++ "." ++ query.name

/-- Why no adapter can be generated for a name. -/
inductive Refusal where
  | emptyName
  | notFound (query : Query)
  | notType (query : Query)
  | notInterface (query : Query)
  | generic (query : Query)
  | methodCount (query : Query) (count : Nat)
  | embedded (query : Query)
  | sharedSignature (query : Query) (count : Nat)
  | noSignature (query : Query) (method : String)
  deriving DecidableEq, Repr

/-- The words for a refusal. -/
def Refusal.message : Refusal → String
  | .emptyName => "interface name must be a non-empty identifier"
  | .notFound query => "did not find " ++ query.qualified
  | .notType query => query.qualified ++ " is not a type"
  | .notInterface query => query.qualified ++ " is not an interface"
  | .generic query => query.qualified ++ " is generic; generic interfaces are not supported"
  | .methodCount query count =>
      query.qualified ++ " has more or less than 1 method (found " ++ count.repr ++ ")"
  | .embedded query =>
      query.qualified ++ " embeds an interface instead of declaring a method"
  | .sharedSignature query count =>
      query.qualified ++ " declares " ++ count.repr ++ " method names sharing one signature"
  | .noSignature query method =>
      query.qualified ++ " method " ++ method ++ " has no function signature"

/-- An interface with a single method, taken apart. -/
structure Target where
  spec : TypeSpec
  methodName : String
  signature : Signature

namespace Target

/-- The entry of the interface that declares the method. -/
def method (target : Target) : Field :=
  .mk [target.methodName] target.signature.toExpr

/-- The method that an interface declares, if it has exactly one with a name of its own. -/
def ofMethods (query : Query) (spec : TypeSpec) : List Field → Except Refusal Target
  | [.mk [methodName] type] =>
      match type.signature? with
      | some signature => .ok ⟨spec, methodName, signature⟩
      | none => .error (.noSignature query methodName)
  | [.mk [] _] => .error (.embedded query)
  | [.mk names _] => .error (.sharedSignature query names.length)
  | methods => .error (.methodCount query methods.length)

/-- The target that a declared type gives. -/
def ofSpec (query : Query) (spec : TypeSpec) : Except Refusal Target :=
  match spec.type with
  | .interface methods =>
      match spec.typeParams with
      | some (_ :: _) => .error (.generic query)
      | _ => ofMethods query spec methods
  | _ => .error (.notInterface query)

/-- The target that an object gives. -/
def ofObject (query : Query) (object : Object) : Except Refusal Target :=
  match object.kind, object.decl with
  | .type, some spec => ofSpec query spec
  | _, _ => .error (.notType query)

/-- The target that a query stands for in a program. -/
def resolve (query : Query) (program : Program) : Except Refusal Target :=
  if query.name.isEmpty then
    .error .emptyName
  else
    match program.find? query.name with
    | none => .error (.notFound query)
    | some binding => ofObject query binding.object

end Target

end FuncAdapter
