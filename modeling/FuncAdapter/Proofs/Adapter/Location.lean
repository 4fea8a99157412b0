import FuncAdapter.Proofs.Adapter.Forwarding
import FuncAdapter.Proofs.Program.RoundTrip

/-!
# Generation and the location of a program

The location that a user gives for a program appears in messages and nowhere else.  Whether a name
can be adapted, and the declarations that are generated for it, depend on the program alone; a
refusal shows the location once, in front of the name.

In a program that was read from a document no node is missing, and none is missing in the
declarations that are generated from it, so that they can always be written.
-/

namespace FuncAdapter

/-! ## Lookup -/

/-- Refusals that show the qualified name, with the same text around it for every query. -/
def Refusal.Framed (refusal : Query → Refusal) : Prop :=
  (∀ query, refusal query ≠ .emptyName) ∧
    ∃ before after, ∀ query, (refusal query).message = before ++ query.qualified ++ after

theorem Refusal.framed_of_suffix {refusal : Query → Refusal} {after : String}
    (named : ∀ query, refusal query ≠ .emptyName)
    (worded : ∀ query, (refusal query).message = query.qualified ++ after) :
    Framed refusal :=
  ⟨named, "", after, fun query => by rw [worded, String.empty_append]⟩

theorem Refusal.framed_methodCount (count : Nat) : Framed (.methodCount · count) :=
  framed_of_suffix nofun fun _ => by rw [message, String.append_assoc, String.append_assoc]

/-- A lookup gives one target at all locations, or refusals with the same frame. -/
def AlikeEverywhere (name : String) (outcome : String → Except Refusal Target) : Prop :=
  (∃ target, ∀ location, outcome location = .ok target) ∨
    ∃ refusal, Refusal.Framed refusal ∧
      ∀ location, outcome location = .error (refusal ⟨location, name⟩)

namespace Target

theorem alike_ofMethods (name : String) (spec : TypeSpec) (methods : List Field) :
    AlikeEverywhere name fun location => ofMethods ⟨location, name⟩ spec methods := by
  rcases methods with _ | ⟨⟨names, type⟩, _ | ⟨second, methods⟩⟩
  · exact .inr ⟨_, Refusal.framed_methodCount 0, fun _ => rfl⟩
  · rcases names with _ | ⟨method, _ | ⟨other, others⟩⟩
    · exact .inr ⟨.embedded, Refusal.framed_of_suffix nofun fun _ => rfl, fun _ => rfl⟩
    · cases typed : type.signature? with
      | none =>
          have framed : Refusal.Framed (.noSignature · method) :=
            Refusal.framed_of_suffix nofun fun _ => by
              rw [Refusal.message, String.append_assoc, String.append_assoc]
          exact .inr ⟨_, framed, fun location => by simp [ofMethods, typed]⟩
      | some signature =>
          exact .inl ⟨⟨spec, method, signature⟩, fun location => by simp [ofMethods, typed]⟩
    · have framed : Refusal.Framed (.sharedSignature · (method :: other :: others).length) :=
        Refusal.framed_of_suffix nofun fun _ => by
          rw [Refusal.message, String.append_assoc, String.append_assoc]
      exact .inr ⟨_, framed, fun _ => rfl⟩
  · exact .inr ⟨_, Refusal.framed_methodCount (methods.length + 2), fun _ => by simp [ofMethods]⟩

theorem alike_ofSpec (name : String) (spec : TypeSpec) :
    AlikeEverywhere name fun location => ofSpec ⟨location, name⟩ spec := by
  obtain ⟨declared, type, typeParams⟩ := spec
  cases type with
  | interface methods =>
      rcases typeParams with _ | _ | ⟨param, params⟩
      · exact alike_ofMethods name _ methods
      · exact alike_ofMethods name _ methods
      · exact .inr ⟨.generic, Refusal.framed_of_suffix nofun fun _ => rfl, fun _ => rfl⟩
  | _ => exact .inr ⟨.notInterface, Refusal.framed_of_suffix nofun fun _ => rfl, fun _ => rfl⟩

theorem alike_ofObject (name : String) (object : Object) :
    AlikeEverywhere name fun location => ofObject ⟨location, name⟩ object := by
  have refused : Refusal.Framed .notType := Refusal.framed_of_suffix nofun fun _ => rfl
  obtain ⟨kind, decl⟩ := object
  cases kind with
  | type =>
      cases decl with
      | none => exact .inr ⟨.notType, refused, fun _ => rfl⟩
      | some spec => exact alike_ofSpec name spec
  | _ => exact .inr ⟨.notType, refused, fun _ => rfl⟩

/-- What a name stands for does not depend on the location. -/
theorem alike_resolve {name : String} (named : name ≠ "") (program : Program) :
    AlikeEverywhere name fun location => resolve ⟨location, name⟩ program := by
  have notEmpty : name.isEmpty = false := by simpa using named
  simp only [resolve, notEmpty]
  cases program.find? name with
  | none =>
      refine .inr ⟨.notFound, ⟨nofun, "did not find ", "", fun _ => ?_⟩, fun _ => rfl⟩
      rw [Refusal.message, String.append_empty]
  | some binding => exact alike_ofObject name binding.object

/-! ## Targets of well-formed programs -/

theorem eq_of_ofMethods {query : Query} {spec : TypeSpec} {methods : List Field}
    {target : Target} (succeeds : ofMethods query spec methods = .ok target) :
    target.spec = spec ∧ methods = [target.method] := by
  unfold ofMethods at succeeds
  split at succeeds
  · next methodName type =>
      split at succeeds
      · next signature typed =>
          cases succeeds
          cases type <;> cases typed
          exact ⟨rfl, rfl⟩
      · cases succeeds
  all_goals cases succeeds

theorem eq_of_ofSpec {query : Query} {spec : TypeSpec} {target : Target}
    (succeeds : ofSpec query spec = .ok target) :
    target.spec = spec ∧ spec.type = .interface [target.method] := by
  unfold ofSpec at succeeds
  split at succeeds
  · next methods interface =>
      split at succeeds
      · cases succeeds
      · obtain ⟨same, single⟩ := eq_of_ofMethods succeeds
        exact ⟨same, by rw [interface, single]⟩
  · cases succeeds

theorem exists_binding_of_resolve {query : Query} {program : Program} {target : Target}
    (succeeds : resolve query program = .ok target) :
    ∃ binding, program.find? query.name = some binding ∧
      binding.object.decl = some target.spec ∧ target.spec.type = .interface [target.method] := by
  unfold resolve at succeeds
  split at succeeds
  · cases succeeds
  · split at succeeds
    · cases succeeds
    · next binding found =>
        unfold ofObject at succeeds
        split at succeeds
        · next spec _ declared =>
            obtain ⟨same, interface⟩ := eq_of_ofSpec succeeds
            exact ⟨binding, found, by rw [declared, same], by rw [same, interface]⟩
        · cases succeeds

end Target

theorem Table.mem_values_of_find? {label value : Type} [DecidableEq label]
    {table : Table label value} {key : label} {stored : value}
    (found : table.find? key = some stored) : stored ∈ table.values := by
  rw [Table.find?] at found
  rw [Table.values]
  generalize table.entries = entries at found ⊢
  induction entries with
  | nil => exact nomatch found
  | cons entry entries ih =>
      obtain ⟨other, value⟩ := entry
      rw [Entries.find?] at found
      split at found
      · cases found
        exact List.mem_cons_self
      · exact List.mem_cons_of_mem _ (ih found)

theorem wellFormed_of_findInFiles {package : Label} {name : String}
    {files : List (Label × File)} {binding : Binding}
    (wellFormed : ∀ entry ∈ files, entry.2.WellFormed)
    (found : findInFiles package name files = some binding) : binding.object.WellFormed := by
  induction files with
  | nil => exact nomatch found
  | cons entry files ih =>
      obtain ⟨here, later⟩ := List.forall_mem_cons.mp wellFormed
      rw [findInFiles] at found
      split at found
      · next object inFile =>
          cases found
          exact here object (Table.mem_values_of_find? inFile)
      · exact ih later found

theorem wellFormed_of_findInPackages {name : String} {packages : List (Label × Package)}
    {binding : Binding} (wellFormed : ∀ entry ∈ packages, entry.2.WellFormed)
    (found : findInPackages name packages = some binding) : binding.object.WellFormed := by
  induction packages with
  | nil => exact nomatch found
  | cons entry packages ih =>
      obtain ⟨here, later⟩ := List.forall_mem_cons.mp wellFormed
      rw [findInPackages] at found
      split at found
      · next inPackage =>
          cases found
          refine wellFormed_of_findInFiles (fun file member => ?_) inPackage
          exact here file.2 (List.mem_map_of_mem member)
      · exact ih later found

/-- The method of a target in a well-formed program has no call and no missing node. -/
theorem Program.WellFormed.foreign?_target {program : Program} (wellFormed : program.WellFormed)
    {query : Query} {target : Target} (resolved : Target.resolve query program = .ok target) :
    target.signature.toExpr.foreign? = none := by
  obtain ⟨binding, found, declared, interface⟩ := Target.exists_binding_of_resolve resolved
  have object : binding.object.WellFormed :=
    wellFormed_of_findInPackages
      (fun entry member => wellFormed entry.2 (List.mem_map_of_mem member)) found
  have type := (object target.spec declared).1
  rw [interface, Target.method] at type
  simpa [Expr.foreign?, fieldsForeign?] using type

/-! ## Declarations that can be written -/

mutual

theorem Expr.complete_of_foreign? : (expr : Expr) → expr.foreign? = none → expr.complete = true
  | .ident _, _ => rfl
  | .array element _, plain => by
      rw [Expr.complete]
      exact element.complete_of_foreign? plain
  | .map key value, plain => by
      have both : key.foreign? = none ∧ value.foreign? = none := by
        simpa [Expr.foreign?] using plain
      simp [Expr.complete, key.complete_of_foreign? both.1, value.complete_of_foreign? both.2]
  | .pointer target, plain => by
      rw [Expr.complete]
      exact target.complete_of_foreign? plain
  | .selector qualifier _, plain => by
      rw [Expr.complete]
      exact qualifier.complete_of_foreign? plain
  | .variadic element, plain => by
      rw [Expr.complete]
      exact element.complete_of_foreign? plain
  | .func params results, plain => by
      have both : fieldsForeign? params = none ∧ resultsForeign? results = none := by
        simpa [Expr.foreign?] using plain
      simp [Expr.complete, fieldsComplete_of_foreign? params both.1,
        resultsComplete_of_foreign? results both.2]
  | .interface methods, plain => by
      rw [Expr.complete]
      exact fieldsComplete_of_foreign? methods plain
  | .raw _, _ => rfl

theorem fieldsComplete_of_foreign? :
    (fields : List Field) → fieldsForeign? fields = none → fieldsComplete fields = true
  | [], _ => rfl
  | .mk _ type :: fields, plain => by
      have both : type.foreign? = none ∧ fieldsForeign? fields = none := by
        simpa [fieldsForeign?] using plain
      simp [fieldsComplete, type.complete_of_foreign? both.1,
        fieldsComplete_of_foreign? fields both.2]

theorem resultsComplete_of_foreign? :
    (results : Option (List Field)) → resultsForeign? results = none →
      resultsComplete results = true
  | none, _ => rfl
  | some fields, plain => fieldsComplete_of_foreign? fields plain

end

theorem fieldsComplete_eq_all (fields : List Field) :
    fieldsComplete fields = (fields.map Field.type).all Expr.complete := by
  induction fields with
  | nil => rfl
  | cons field fields ih =>
      obtain ⟨names, type⟩ := field
      rw [fieldsComplete, ih]
      rfl

theorem exprsComplete_map_ident (names : List String) :
    exprsComplete (names.map Expr.ident) = true := by
  induction names with
  | nil => rfl
  | cons name names ih => rw [List.map_cons, exprsComplete, ih, Expr.complete, Bool.and_self]

namespace Adapter

theorem complete_forwardingCall (fields : List Field) :
    (forwardingCall fields).complete = true := by
  rw [forwardingCall, Expr.complete, Expr.complete, ← List.map_flatMap, exprsComplete_map_ident,
    Bool.and_self]

theorem complete_body (fields : List Field) (returnsValue : Bool) :
    (body fields returnsValue).complete = true := by
  rw [body]
  split
  · simp [Stmt.complete, exprsComplete, complete_forwardingCall]
  · exact complete_forwardingCall fields

/-- The declarations for a target have a missing node exactly if its signature has one. -/
theorem all_complete_decls {target : Target} {names : List (List String)} {method : Decl}
    (fits : Fits target.signature.params names)
    (named : params target.signature = .ok (rename target.signature.params names))
    (declared : methodDecl target = .ok method) :
    [typeDecl target, method].all Decl.complete = target.signature.toExpr.complete := by
  rw [methodDecl_eq_ok named] at declared
  cases declared
  have renamed : fieldsComplete (rename target.signature.params names) =
      fieldsComplete target.signature.params := by
    rw [fieldsComplete_eq_all, fits.map_type_rename, ← fieldsComplete_eq_all]
  simp [typeDecl, Decl.complete, Signature.toExpr, renamed, complete_body, Expr.complete]

/-- The declarations for a target without missing nodes have none either. -/
theorem exists_render_eq_ok {target : Target}
    (plain : target.signature.toExpr.foreign? = none) :
    ∃ method text, methodDecl target = .ok method ∧
      render [typeDecl target, method] = .ok text := by
  obtain ⟨names, -, named, fits, -, -⟩ := exists_params_eq_ok target.signature
  have declared := methodDecl_eq_ok named
  refine ⟨_, _, declared, if_pos ?_⟩
  rw [all_complete_decls fits named declared]
  exact Expr.complete_of_foreign? _ plain

/-! ## Generation -/

theorem generate_of_resolve {query : Query} {program : Program} {target : Target} {method : Decl}
    (resolved : Target.resolve query program = .ok target)
    (declared : methodDecl target = .ok method) :
    generate query program = .ok [typeDecl target, method] := by
  rw [generate, resolved]
  change (methodDecl target).mapError Failure.notDistinct >>= _ = _
  rw [declared]
  rfl

/--
For a name in a well-formed program, either the same declarations are generated at all locations and
can be written, or refusals that differ in the location only.
-/
theorem generate_alike {name : String} (named : name ≠ "") {program : Program}
    (wellFormed : program.WellFormed) :
    (∃ decls text, render decls = .ok text ∧
      ∀ location, generate ⟨location, name⟩ program = .ok decls) ∨
    ∃ refusal, Refusal.Framed refusal ∧
      ∀ location,
        generate ⟨location, name⟩ program = .error (.refused (refusal ⟨location, name⟩)) := by
  rcases Target.alike_resolve named program with ⟨target, resolves⟩ | ⟨refusal, framed, refuses⟩
  · obtain ⟨method, text, declared, written⟩ :=
      exists_render_eq_ok (wellFormed.foreign?_target (resolves ""))
    exact .inl ⟨_, text, written, fun location => generate_of_resolve (resolves location) declared⟩
  · refine .inr ⟨refusal, framed, fun location => ?_⟩
    have refused : Target.resolve ⟨location, name⟩ program = .error _ := refuses location
    rw [generate, refused]
    rfl

end Adapter

end FuncAdapter
