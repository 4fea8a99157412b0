import FuncAdapter.Proofs.Adapter.Location
import FuncAdapter.Proofs.Adapter.Reordering

/-!
# What a name stands for

The first file that binds a name decides what the name stands for, and no later binding is looked
at.  `Ruling` lists what the first binding can be and what follows from it: no object at all, an
object that is no declared type, a type that is no interface, an interface of an unsupported shape,
or an interface with a single method.

Every object has a ruling, and a lookup ends as the ruling says.  So a lookup ends in one way
exactly when the first binding is of the kind that belongs to it.
-/

namespace FuncAdapter

/-! ## Rulings -/

/-- An object that is a type with a declaration. -/
def Object.Declares (object : Object) (spec : TypeSpec) : Prop :=
  object.kind = .type ∧ object.decl = some spec

/-- A declaration with type parameters. -/
def TypeSpec.Generic (spec : TypeSpec) : Prop :=
  ∃ param params, spec.typeParams = some (param :: params)

/-- An interface that is generic, or that is no single method with one name and a signature. -/
def TypeSpec.Unsupported (spec : TypeSpec) (methods : List Field) : Prop :=
  spec.Generic ∨ methods.length ≠ 1 ∨
    ∃ entry, methods = [entry] ∧
      (entry.names.length ≠ 1 ∨ ∀ signature : Signature, entry.type ≠ signature.toExpr)

/-- The kinds of refusals. -/
inductive Refusal.Kind where
  | unnamed
  | notFound
  | notType
  | notInterface
  | unsupported
  deriving DecidableEq, Repr

/-- The kind of a refusal; all refusals of an interface for its shape are of one kind. -/
def Refusal.kind : Refusal → Refusal.Kind
  | .emptyName => .unnamed
  | .notFound _ => .notFound
  | .notType _ => .notType
  | .notInterface _ => .notInterface
  | .generic _ => .unsupported
  | .methodCount _ _ => .unsupported
  | .embedded _ => .unsupported
  | .sharedSignature _ _ => .unsupported
  | .noSignature _ _ => .unsupported

/-- What a name stands for when an object, or none, is the first that it is bound to. -/
inductive Ruling : Option Object → Except Refusal.Kind Target → Prop where
  | notFound : Ruling none (.error .notFound)
  | notType {object : Object} (other : object.kind ≠ .type ∨ object.decl = none) :
      Ruling (some object) (.error .notType)
  | notInterface {object : Object} {spec : TypeSpec} (declared : object.Declares spec)
      (other : ∀ methods, spec.type ≠ .interface methods) :
      Ruling (some object) (.error .notInterface)
  | unsupported {object : Object} {spec : TypeSpec} {methods : List Field}
      (declared : object.Declares spec) (interface : spec.type = .interface methods)
      (shape : spec.Unsupported methods) :
      Ruling (some object) (.error .unsupported)
  | stands {object : Object} {target : Target} (declared : object.Declares target.spec)
      (interface : target.spec.type = .interface [target.method])
      (plain : ¬ target.spec.Generic) :
      Ruling (some object) (.ok target)

/-- An interface of a supported shape declares the method of a target. -/
theorem exists_target_of_supported {spec : TypeSpec} {methods : List Field}
    (supported : ¬ spec.Unsupported methods) :
    ∃ target : Target, target.spec = spec ∧ methods = [target.method] := by
  simp only [TypeSpec.Unsupported, not_or, not_exists, not_and, not_not] at supported
  obtain ⟨-, single, shaped⟩ := supported
  obtain ⟨⟨names, type⟩, rfl⟩ := List.length_eq_one_iff.mp single
  obtain ⟨named, typed⟩ := shaped _ rfl
  obtain ⟨methodName, rfl⟩ := List.length_eq_one_iff.mp named
  simp only [Field.type_mk, not_forall, not_not] at typed
  obtain ⟨signature, rfl⟩ := typed
  exact ⟨⟨spec, methodName, signature⟩, rfl, rfl⟩

/-- Every object has a ruling, and so has no object. -/
theorem exists_ruling (first : Option Object) : ∃ ruling, Ruling first ruling := by
  cases first with
  | none => exact ⟨_, .notFound⟩
  | some object =>
      by_cases isType : object.kind = .type
      · cases decl : object.decl with
        | none => exact ⟨_, .notType (.inr decl)⟩
        | some spec =>
            by_cases isInterface : ∃ methods, spec.type = .interface methods
            · obtain ⟨methods, interface⟩ := isInterface
              by_cases shape : spec.Unsupported methods
              · exact ⟨_, .unsupported ⟨isType, decl⟩ interface shape⟩
              · obtain ⟨target, rfl, rfl⟩ := exists_target_of_supported shape
                exact ⟨_, .stands ⟨isType, decl⟩ interface fun generic => shape (.inl generic)⟩
            · exact ⟨_, .notInterface ⟨isType, decl⟩ (not_exists.mp isInterface)⟩
      · exact ⟨_, .notType (.inl isType)⟩

/-! ## Lookups end as ruled -/

namespace Target

theorem ofObject_of_declares {object : Object} {spec : TypeSpec} (declared : object.Declares spec)
    (query : Query) :
    ofObject query object = ofSpec query spec := by
  obtain ⟨isType, decl⟩ := declared
  rw [ofObject, isType, decl]

theorem ofObject_of_other {object : Object} (other : object.kind ≠ .type ∨ object.decl = none)
    (query : Query) :
    ofObject query object = .error (.notType query) := by
  rw [ofObject]
  split
  · next isType decl =>
      rcases other with otherKind | noDecl
      · exact absurd isType otherKind
      · rw [noDecl] at decl
        cases decl
  · rfl

theorem ofSpec_of_other {spec : TypeSpec} (other : ∀ methods, spec.type ≠ .interface methods)
    (query : Query) :
    ofSpec query spec = .error (.notInterface query) := by
  rw [ofSpec]
  split
  · next methods interface => exact absurd interface (other methods)
  · rfl

theorem ofSpec_of_generic {spec : TypeSpec} {methods : List Field}
    (interface : spec.type = .interface methods) (generic : spec.Generic) (query : Query) :
    ofSpec query spec = .error (.generic query) := by
  obtain ⟨param, params, given⟩ := generic
  simp only [ofSpec, interface, given]

theorem ofSpec_of_plain {spec : TypeSpec} {methods : List Field}
    (interface : spec.type = .interface methods) (plain : ¬ spec.Generic) (query : Query) :
    ofSpec query spec = ofMethods query spec methods := by
  simp only [ofSpec, interface]
  split
  · next param params given => exact absurd ⟨param, params, given⟩ plain
  · rfl

/-- The entries of an interface are refused for their shape only. -/
theorem kind_of_ofMethods_error {query : Query} {spec : TypeSpec} {methods : List Field}
    {refusal : Refusal} (refused : ofMethods query spec methods = .error refusal) :
    refusal.kind = .unsupported := by
  unfold ofMethods at refused
  split at refused
  · split at refused
    · cases refused
    · cases refused
      rfl
  all_goals
    cases refused
    rfl

theorem not_unsupported_method (target : Target) (plain : ¬ target.spec.Generic) :
    ¬ target.spec.Unsupported [target.method] := by
  rintro (generic | several | ⟨entry, same, unnamed | untyped⟩)
  · exact plain generic
  · exact several rfl
  · cases same
    exact unnamed rfl
  · cases same
    exact untyped target.signature rfl

/-- An interface of an unsupported shape is refused as such. -/
theorem mapError_ofSpec_of_unsupported {spec : TypeSpec} {methods : List Field}
    (interface : spec.type = .interface methods) (shape : spec.Unsupported methods)
    (query : Query) :
    (ofSpec query spec).mapError Refusal.kind = .error .unsupported := by
  by_cases generic : spec.Generic
  · rw [ofSpec_of_generic interface generic, mapError_error, Refusal.kind]
  · rw [ofSpec_of_plain interface generic]
    cases outcome : ofMethods query spec methods with
    | error refusal => rw [mapError_error, kind_of_ofMethods_error outcome]
    | ok target =>
        obtain ⟨rfl, rfl⟩ := eq_of_ofMethods outcome
        exact absurd shape (target.not_unsupported_method generic)

/-- An object gives what its ruling says. -/
theorem mapError_ofObject {object : Object} {ruling : Except Refusal.Kind Target}
    (ruled : Ruling (some object) ruling) (query : Query) :
    (ofObject query object).mapError Refusal.kind = ruling := by
  cases ruled with
  | notType other => rw [ofObject_of_other other, mapError_error, Refusal.kind]
  | notInterface declared other =>
      rw [ofObject_of_declares declared, ofSpec_of_other other, mapError_error, Refusal.kind]
  | unsupported declared interface shape =>
      rw [ofObject_of_declares declared, mapError_ofSpec_of_unsupported interface shape]
  | stands declared interface plain =>
      rw [ofObject_of_declares declared, ofSpec_of_plain interface plain]
      rfl

end Target

/-! ## First bindings -/

/-- The object that the first file binding a name binds it to, by packages and then by files. -/
def Program.firstObject (program : Program) (name : String) : Option Object :=
  (program.bindings name).head?.map Binding.object

theorem Program.bindings_eq_nil_iff (program : Program) (name : String) :
    program.bindings name = [] ↔
      ∀ package ∈ program.packages.values, ∀ file ∈ package.files.values,
        file.objects.find? (.text name) = none := by
  simp only [Program.bindings, Package.bindings, File.bindings, Table.values,
    List.flatMap_eq_nil_iff, List.forall_mem_map, List.map_eq_nil_iff, Option.toList_eq_nil_iff]

theorem Program.firstObject_eq_none_iff (program : Program) (name : String) :
    program.firstObject name = none ↔ program.bindings name = [] := by
  rw [Program.firstObject, Option.map_eq_none_iff, List.head?_eq_none_iff]

theorem Program.firstObject_eq_find? (program : Program) (name : String) :
    program.firstObject name = (program.find? name).map Binding.object := by
  rw [Program.firstObject, Program.find?_eq_head?]

namespace Target

theorem resolve_of_named {query : Query} (named : query.name ≠ "") (program : Program) :
    resolve query program =
      match program.firstObject query.name with
      | none => .error (.notFound query)
      | some object => ofObject query object := by
  have notEmpty : ¬ query.name.isEmpty = true := by simpa using named
  rw [resolve, if_neg notEmpty, Program.firstObject_eq_find?]
  cases program.find? query.name with
  | none => rfl
  | some binding => rfl

/-- A lookup ends as the ruling on the first object says. -/
theorem mapError_resolve {query : Query} (named : query.name ≠ "") {program : Program}
    {ruling : Except Refusal.Kind Target}
    (ruled : Ruling (program.firstObject query.name) ruling) :
    (resolve query program).mapError Refusal.kind = ruling := by
  rw [resolve_of_named named]
  cases bound : program.firstObject query.name with
  | none =>
      rw [bound] at ruled
      cases ruled
      rfl
  | some object =>
      rw [bound] at ruled
      exact mapError_ofObject ruled query

/-- A lookup ends in one way exactly when this is the ruling on the first object. -/
theorem mapError_resolve_eq_iff {query : Query} (named : query.name ≠ "") (program : Program)
    (ruling : Except Refusal.Kind Target) :
    (resolve query program).mapError Refusal.kind = ruling ↔
      Ruling (program.firstObject query.name) ruling := by
  constructor
  · rintro rfl
    -- Some ruling holds, and the lookup ends by it, so it is the one that was reached.
    obtain ⟨ruling, ruled⟩ := exists_ruling (program.firstObject query.name)
    rw [mapError_resolve named ruled]
    exact ruled
  · exact mapError_resolve named

/-- A name is not found exactly when no file binds it. -/
theorem resolve_eq_notFound_iff {query : Query} (named : query.name ≠ "") (program : Program) :
    resolve query program = .error (.notFound query) ↔ program.bindings query.name = [] := by
  rw [← Program.firstObject_eq_none_iff]
  constructor
  · intro refused
    have ruled : Ruling (program.firstObject query.name) (.error .notFound) := by
      apply (mapError_resolve_eq_iff named program _).mp
      rw [refused, mapError_error, Refusal.kind]
    generalize program.firstObject query.name = first at ruled ⊢
    cases ruled
    rfl
  · intro unbound
    rw [resolve_of_named named, unbound]

theorem exists_message_of_resolve_error {query : Query} (named : query.name ≠ "")
    {program : Program} {refusal : Refusal} (refused : resolve query program = .error refusal) :
    ∃ before after, refusal.message = before ++ query.qualified ++ after := by
  rcases alike_resolve named program with
    ⟨target, resolves⟩ | ⟨refusalAt, ⟨-, before, after, worded⟩, refuses⟩
  · have resolved : resolve query program = .ok target := resolves query.location
    rw [refused] at resolved
    cases resolved
  · have same : resolve query program = .error (refusalAt query) := refuses query.location
    rw [refused] at same
    cases same
    exact ⟨before, after, worded query⟩

end Target

/--
What a name stands for is ruled by the first object that it is bound to, by packages and then by
files, and never changed by later bindings.  It is not found exactly when no file binds it, and
every refusal shows it qualified by the location.
-/
theorem resolve_ruled_by_first_binding (query : Query) (named : query.name ≠ "")
    (program : Program) :
    (∀ ruling, (Target.resolve query program).mapError Refusal.kind = ruling ↔
        Ruling (program.firstObject query.name) ruling) ∧
      (Target.resolve query program = .error (.notFound query) ↔
        ∀ package ∈ program.packages.values, ∀ file ∈ package.files.values,
          file.objects.find? (.text query.name) = none) ∧
      (∀ refusal, Target.resolve query program = .error refusal →
        ∃ before after,
          refusal.message = before ++ (query.location ++ "." ++ query.name) ++ after) ∧
      ∀ (other : Program) (first : Binding) (later changed : List Binding),
        program.bindings query.name = first :: later →
          other.bindings query.name = first :: changed →
            Target.resolve query other = Target.resolve query program := by
  refine ⟨Target.mapError_resolve_eq_iff named program, ?_, ?_, ?_⟩
  · rw [Target.resolve_eq_notFound_iff named, Program.bindings_eq_nil_iff]
  · intro refusal refused
    exact Target.exists_message_of_resolve_error named refused
  · intro other first later changed bound otherBound
    apply Target.resolve_of_find?_eq
    rw [Program.find?_eq_head?, Program.find?_eq_head?, bound, otherBound, List.head?_cons,
      List.head?_cons]

/-- A program that binds a name to a constant and, in a later package, to an interface. -/
def shadowingProgram : Program :=
  ⟨.ofEntries
    [(.text "p", ⟨.ofEntries [(.text "a.go", ⟨.ofEntries [(.text "Mixer", ⟨.const, none⟩)]⟩)]⟩),
      (.text "q", ⟨.ofEntries
        [(.text "b.go", ⟨.ofEntries [(.text "Mixer", ⟨.type, some Adapter.mixerSpec⟩)]⟩)]⟩)]⟩

theorem resolve_ruled_by_first_binding_shadowing :
    "Mixer" ≠ "" ∧
      (shadowingProgram.bindings "Mixer").length = 2 ∧
      Ruling (shadowingProgram.firstObject "Mixer") (.error .notType) ∧
      (Target.resolve ⟨"./p", "Mixer"⟩ shadowingProgram).mapError Refusal.kind =
        .error .notType := by
  have named : "Mixer" ≠ "" := by decide
  have ruled : Ruling (shadowingProgram.firstObject "Mixer") (.error .notType) :=
    Ruling.notType (.inl (by decide))
  have rulings := (resolve_ruled_by_first_binding ⟨"./p", "Mixer"⟩ named shadowingProgram).1
  exact ⟨named, by decide, ruled, (rulings _).mpr ruled⟩

end FuncAdapter
