import FuncAdapter.Adapter
import FuncAdapter.Proofs.Naming.Convergence
import Mathlib.Data.List.Forall2

/-!
# Forwarding

An adapter forwards a call if its parameters have the types of the method, and if the arguments of
the inner call, read where the parameter names are bound to the values of the outer call, are those
values in the same order.

Types and names are compared value by value: a field stands for as many values as it has names, and
for one value if it has none.  The names of the adapter come from making the draft names distinct,
which keeps the sizes of the groups, so no value is lost or moved.
-/

namespace FuncAdapter

/-- The types of the values that fields stand for: one for each name, one for no name. -/
def valueTypes (fields : List Field) : List Expr :=
  fields.flatMap fun field => List.replicate (max 1 field.names.length) field.type

/-- The names that fields bind, in order. -/
def boundNames (fields : List Field) : List String :=
  fields.flatMap Field.names

/-- The value of an argument where names are bound to values. -/
def Expr.valueIn {value : Type} (bindings : List (String × value)) : Expr → Option value
  | .ident name => Entries.find? name bindings
  | _ => none

/-- Names bound by position to as many values give the values back in order. -/
theorem map_find?_zip {value : Type} {names : List String} {values : List value}
    (distinct : names.Nodup) (sameLength : values.length = names.length) :
    names.map (fun name => Entries.find? name (names.zip values)) = values.map some := by
  induction names generalizing values with
  | nil =>
      rw [List.length_nil, List.length_eq_zero_iff] at sameLength
      rw [sameLength]
      rfl
  | cons name names ih =>
      cases values with
      | nil => simp at sameLength
      | cons first values =>
          rw [List.nodup_cons] at distinct
          rw [List.length_cons, List.length_cons, Nat.succ_inj] at sameLength
          have tail :
              names.map (fun other => Entries.find? other ((name, first) :: names.zip values)) =
                names.map (fun other => Entries.find? other (names.zip values)) := by
            apply List.map_congr_left
            intro other member
            have different : name ≠ other := fun equal => distinct.1 (equal ▸ member)
            rw [Entries.find?, if_neg different]
          rw [List.zip_cons_cons, List.map_cons, tail, ih distinct.2 sameLength, List.map_cons,
            Entries.find?, if_pos rfl]

namespace Adapter

/-! ## Renamed fields -/

/-- A field drafts one name for each value it stands for. -/
theorem length_draftNames (field : Field) :
    (draftNames field).length = max 1 field.names.length := by
  rw [draftNames]
  split
  · next empty => simp [empty]
  · next named =>
      have positive : 0 < field.names.length := List.length_pos_iff.mpr named
      rw [List.length_map]
      omega

/-- There is one group of names for each field, with one name for each value it stands for. -/
def Fits (fields : List Field) (names : List (List String)) : Prop :=
  List.Forall₂ (fun field group => max 1 field.names.length = group.length) fields names

theorem fits_of_sameSizes {fields : List Field} {names : List (List String)}
    (sameSizes : names.map List.length = (fields.map draftNames).map List.length) :
    Fits fields names := by
  have sizes : (fields.map fun field => max 1 field.names.length) = names.map List.length := by
    rw [sameSizes, List.map_map]
    apply List.map_congr_left
    intro field _
    exact (length_draftNames field).symm
  rwa [← List.forall₂_eq_eq_eq, List.forall₂_map_left_iff, List.forall₂_map_right_iff] at sizes

theorem Fits.valueTypes_rename {fields : List Field} {names : List (List String)}
    (fits : Fits fields names) :
    valueTypes (rename fields names) = valueTypes fields := by
  induction fits with
  | nil => rfl
  | cons size _ ih =>
      simp only [valueTypes, rename, List.zipWith_cons_cons, List.flatMap_cons, Field.names_mk,
        Field.type_mk] at ih ⊢
      rw [ih, ← size, Nat.max_eq_right (Nat.le_max_left 1 _)]

theorem Fits.boundNames_rename {fields : List Field} {names : List (List String)}
    (fits : Fits fields names) :
    boundNames (rename fields names) = names.flatten := by
  induction fits with
  | nil => rfl
  | cons _ _ ih =>
      simp only [boundNames, rename, List.zipWith_cons_cons, List.flatMap_cons, Field.names_mk,
        List.flatten_cons] at ih ⊢
      rw [ih]

theorem Fits.map_type_rename {fields : List Field} {names : List (List String)}
    (fits : Fits fields names) :
    (rename fields names).map Field.type = fields.map Field.type := by
  induction fits with
  | nil => rfl
  | cons _ _ ih =>
      rw [rename] at ih
      rw [rename, List.zipWith_cons_cons, List.map_cons, ih, Field.type_mk, List.map_cons]

/-- Fields stand for as many values as they are given names. -/
theorem Fits.length_valueTypes {fields : List Field} {names : List (List String)}
    (fits : Fits fields names) :
    (valueTypes fields).length = names.flatten.length := by
  induction fits with
  | nil => rfl
  | cons size _ ih =>
      simp only [valueTypes, List.flatMap_cons, List.length_append, List.length_replicate,
        List.flatten_cons] at ih ⊢
      rw [ih, size]

theorem spreads_eq_any_type (fields : List Field) :
    spreads fields = (fields.map Field.type).getLast?.any Expr.isVariadic := by
  rw [spreads, List.getLast?_map, Option.any_map]

/-- Renaming changes no type, so the same call is spread. -/
theorem Fits.spreads_rename {fields : List Field} {names : List (List String)}
    (fits : Fits fields names) :
    spreads (rename fields names) = spreads fields := by
  rw [spreads_eq_any_type, spreads_eq_any_type, fits.map_type_rename]

theorem spreads_iff (fields : List Field) :
    spreads fields = true ↔
      ∃ field element, fields.getLast? = some field ∧ field.type = .variadic element := by
  rw [spreads, Option.any_eq_true]
  constructor
  · rintro ⟨field, last, variadic⟩
    rcases type : field.type with _ | _ | _ | _ | _ | element | _ | _ | _ | _ | _
    case variadic => exact ⟨field, element, last, type⟩
    all_goals simp [type, Expr.isVariadic] at variadic
  · rintro ⟨field, element, last, type⟩
    exact ⟨field, last, by rw [type, Expr.isVariadic]⟩

/-- The parameters of an adapter are those of the method under distinct names. -/
theorem exists_params_eq_ok (signature : Signature) :
    ∃ names round,
      params signature = .ok (rename signature.params names) ∧
        Fits signature.params names ∧
        names.flatten = Naming.renumber^[round] (signature.params.flatMap draftNames) ∧
        names.flatten.Nodup := by
  obtain ⟨names, round, succeeds, sameSizes, numbered, distinct⟩ :=
    Naming.exists_distinctNames_eq_ok (signature.params.map draftNames)
  refine ⟨names, round, ?_, fits_of_sameSizes sameSizes, ?_, distinct⟩
  · rw [params, succeeds]
    rfl
  · rw [numbered, List.flatten_eq_flatMap, List.flatMap_map]
    rfl

/-! ## Forwarding calls -/

/--
A statement forwards the values of the parameters of a method: it calls the receiver with arguments
that stand for these values in order, and returns what the call gives back if the method has any
results.
-/
structure Forwards
    (signature : Signature)
    (fields : List Field)
    (arguments : List Expr)
    (spread : Bool)
    (statement : Stmt) : Prop where
  sameTypes : valueTypes fields = valueTypes signature.params
  returns :
    (∃ first rest, signature.results = some (first :: rest)) →
      statement = .result [.call (.ident "fn") arguments spread]
  discards :
    (¬ ∃ first rest, signature.results = some (first :: rest)) →
      statement = .expression (.call (.ident "fn") arguments spread)
  sameValues :
    ∀ (value : Type) (values : List value),
      values.length = (valueTypes fields).length →
        arguments.map (Expr.valueIn ((boundNames fields).zip values)) = values.map some
  spreads_last :
    spread = true ↔
      ∃ field element, signature.params.getLast? = some field ∧ field.type = .variadic element

theorem returnsValue_iff (signature : Signature) :
    signature.returnsValue = true ↔ ∃ first rest, signature.results = some (first :: rest) := by
  rw [Signature.returnsValue]
  rcases signature.results with _ | _ | ⟨first, rest⟩
  · simp
  · simp
  · simp

/-- The arguments of the forwarding call are the bound names. -/
theorem map_valueIn_arguments {value : Type}
    (fields : List Field) (bindings : List (String × value)) :
    (fields.flatMap fun field => field.names.map Expr.ident).map (Expr.valueIn bindings) =
      (boundNames fields).map fun name => Entries.find? name bindings := by
  rw [boundNames, List.map_flatMap, List.map_flatMap]
  simp only [List.map_map]
  rfl

theorem forwards_body {signature : Signature} {names : List (List String)}
    (fits : Fits signature.params names) (distinct : names.flatten.Nodup) :
    Forwards signature (rename signature.params names)
      ((rename signature.params names).flatMap fun field => field.names.map Expr.ident)
      (spreads (rename signature.params names))
      (body (rename signature.params names) signature.returnsValue) where
  sameTypes := fits.valueTypes_rename
  returns := by
    intro results
    rw [body, if_pos ((returnsValue_iff signature).mpr results)]
    rfl
  discards := by
    intro noResults
    rw [body, if_neg fun results => noResults ((returnsValue_iff signature).mp results)]
    rfl
  sameValues := by
    intro value values arity
    rw [fits.valueTypes_rename, fits.length_valueTypes] at arity
    rw [map_valueIn_arguments, fits.boundNames_rename]
    exact map_find?_zip distinct arity
  spreads_last := by
    rw [fits.spreads_rename]
    exact spreads_iff signature.params

/-- The method of an adapter, once its parameters have their names. -/
theorem methodDecl_eq_ok {target : Target} {fields : List Field}
    (named : params target.signature = .ok fields) :
    methodDecl target =
      .ok
        (.func (some (.mk [receiverName] (.ident (typeName target)))) target.methodName
          ⟨fields, target.signature.results⟩ [body fields target.signature.returnsValue]) := by
  rw [methodDecl, named]
  rfl

/--
Whenever a name stands for an interface with a single method, generation succeeds.  It declares the
function type with the signature of the method, and a method of the same name on it that forwards
its parameters to the receiver.
-/
theorem generate_forwards
    (query : Query) (program : Program) (target : Target)
    (resolved : Target.resolve query program = .ok target) :
    ∃ fields arguments spread statement,
      generate query program =
          .ok
            [.types [⟨target.spec.name ++ "Func", target.signature.toExpr, none⟩],
              .func (some (.mk ["fn"] (.ident (target.spec.name ++ "Func")))) target.methodName
                ⟨fields, target.signature.results⟩ [statement]] ∧
        Forwards target.signature fields arguments spread statement := by
  obtain ⟨names, round, named, fits, -, distinct⟩ := exists_params_eq_ok target.signature
  -- The parts of the body are read off `forwards_body`.
  refine ⟨_, _, _, _, ?_, forwards_body fits distinct⟩
  have declared := methodDecl_eq_ok named
  rw [generate, resolved]
  change (methodDecl target).mapError Failure.notDistinct >>= _ = _
  rw [declared]
  rfl

/-- A method with blank, unnamed, colliding and variadic parameters and named results. -/
def mixerSignature : Signature :=
  ⟨[.mk ["_", "b"] (.pointer (.ident "Widget")), .mk [] (.raw "chan int"),
      .mk [] (.raw "chan bool"), .mk ["v1"] (.ident "int"),
      .mk ["args"] (.variadic (.ident "any"))],
    some [.mk ["n"] (.ident "int"), .mk ["err"] (.ident "error")]⟩

/-- An interface that declares only that method. -/
def mixerSpec : TypeSpec :=
  ⟨"Mixer", .interface [.mk ["Mix"] mixerSignature.toExpr], none⟩

/-- A program whose only object is that interface. -/
def mixerProgram : Program :=
  ⟨.ofEntries [(.text "p", ⟨.ofEntries [(.text "p.go",
    ⟨.ofEntries [(.text "Mixer", ⟨.type, some mixerSpec⟩)]⟩)]⟩)]⟩

theorem generate_forwards_mixer :
    Target.resolve ⟨"./p", "Mixer"⟩ mixerProgram = .ok ⟨mixerSpec, "Mix", mixerSignature⟩ ∧
      ∃ fields arguments spread statement,
        generate ⟨"./p", "Mixer"⟩ mixerProgram =
            .ok
              [.types [⟨"MixerFunc", mixerSignature.toExpr, none⟩],
                .func (some (.mk ["fn"] (.ident "MixerFunc"))) "Mix"
                  ⟨fields, mixerSignature.results⟩ [statement]] ∧
          Forwards mixerSignature fields arguments spread statement := by
  have resolved :
      Target.resolve ⟨"./p", "Mixer"⟩ mixerProgram =
        .ok ⟨mixerSpec, "Mix", mixerSignature⟩ := by
    rfl
  exact ⟨resolved, generate_forwards _ _ _ resolved⟩

end Adapter

end FuncAdapter
