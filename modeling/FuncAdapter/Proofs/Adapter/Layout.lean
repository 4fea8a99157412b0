import FuncAdapter.Proofs.Adapter.Location

/-!
# The text of an adapter

The source text that is generated for an interface is known from its name, its method and the names
that the parameters have been given: `adapterText` writes it out, the signature of the method in the
declaration of the function type and the same signature under the new names in the method, and in
the body a call with all of these names.

Declarations have this text for every signature, and they can be written unless a node of the
signature is missing, which is the case in no well-formed program.
-/

namespace FuncAdapter

/-! ## The layout -/

/-- The word in front of a call whose results are returned. -/
def returnWord : Option (List Field) → String
  | some (_ :: _) => "return "
  | _ => ""

/-- The mark behind arguments of which the last one is spread over a variadic parameter. -/
def spreadMark (params : List Field) : String :=
  match params.getLast? with
  | some (.mk _ (.variadic _)) => "..."
  | _ => ""

/-- The source text of the function type and the method for a method of an interface. -/
def adapterText (interface method : String) (signature : Signature) (fields : List Field) :
    String :=
  "type " ++ interface ++ "Func func" ++ signature.text ++ "\n\n" ++
    "func (fn " ++ interface ++ "Func) " ++ method ++
      Signature.text ⟨fields, signature.results⟩ ++ " \x7b\n" ++
    "\t" ++ returnWord signature.results ++
      "fn(" ++ Text.join ", " (boundNames fields) ++ spreadMark signature.params ++ ")\n" ++
    "\x7d\n"

/-! ## The texts of the parts -/

theorem Signature.text_toExpr (signature : Signature) :
    signature.toExpr.text = "func" ++ signature.text := by
  simp only [Signature.toExpr, Expr.text, Signature.text, fieldsText, String.append_assoc]

theorem exprTexts_map_ident (names : List String) : exprTexts (names.map Expr.ident) = names := by
  induction names with
  | nil => rfl
  | cons name names ih => rw [List.map_cons, exprTexts, ih, Expr.text]

namespace Adapter

theorem spreadMark_eq (params : List Field) :
    spreadMark params = if spreads params then "..." else "" := by
  rw [spreadMark, spreads]
  cases params.getLast? with
  | none => rfl
  | some field =>
      obtain ⟨names, type⟩ := field
      cases type <;> rfl

theorem returnWord_eq (signature : Signature) :
    returnWord signature.results = if signature.returnsValue then "return " else "" := by
  rw [Signature.returnsValue]
  rcases signature.results with _ | _ | ⟨first, rest⟩ <;> rfl

/-- The call is written with all names that the fields bind, in order. -/
theorem text_forwardingCall (fields : List Field) :
    (forwardingCall fields).text =
      "fn(" ++ Text.join ", " (boundNames fields) ++ spreadMark fields ++ ")" := by
  have arguments : exprTexts (fields.flatMap fun field => field.names.map Expr.ident) =
      boundNames fields := by
    rw [← List.map_flatMap, exprTexts_map_ident]
    rfl
  rw [forwardingCall, Expr.text, Expr.text, arguments, spreadMark_eq]
  rfl

theorem text_body (fields : List Field) (signature : Signature) :
    (body fields signature.returnsValue).text =
      returnWord signature.results ++ (forwardingCall fields).text := by
  rw [body, returnWord_eq]
  split
  · rfl
  · exact String.empty_append.symm

theorem text_typeDecl (target : Target) :
    (typeDecl target).text =
      "type " ++ target.spec.name ++ "Func func" ++ target.signature.text := by
  have written : (typeDecl target).text =
      "type " ++ (target.spec.name ++ "Func" ++ " " ++ target.signature.toExpr.text) := rfl
  rw [written, Signature.text_toExpr, ← String.toList_inj]
  simp

/-- The method is written in three lines, the receiver and the signature in the first. -/
theorem text_methodDecl {target : Target} {fields : List Field} {method : Decl}
    (named : params target.signature = .ok fields) (declared : methodDecl target = .ok method) :
    method.text =
      "func (fn " ++ target.spec.name ++ "Func) " ++ target.methodName ++
          Signature.text ⟨fields, target.signature.results⟩ ++ " \x7b\n" ++
        "\t" ++ returnWord target.signature.results ++ (forwardingCall fields).text ++ "\n" ++
        "\x7d" := by
  rw [methodDecl_eq_ok named] at declared
  cases declared
  rw [Decl.text, List.map_singleton, text_body, ← String.toList_inj]
  simp [Text.join, receiverText, fieldsText, fieldTexts, namedText, Expr.text, receiverName,
    typeName]

/-- The declarations for a target have the text of the layout. -/
theorem sourceText_decls {target : Target} {names : List (List String)} {method : Decl}
    (fits : Fits target.signature.params names)
    (named : params target.signature = .ok (rename target.signature.params names))
    (declared : methodDecl target = .ok method) :
    sourceText [typeDecl target, method] =
      adapterText target.spec.name target.methodName target.signature
        (rename target.signature.params names) := by
  have mark : spreadMark (rename target.signature.params names) =
      spreadMark target.signature.params := by
    rw [spreadMark_eq, spreadMark_eq, fits.spreads_rename]
  have joined : sourceText [typeDecl target, method] =
      (typeDecl target).text ++ "\n\n" ++ method.text ++ "\n" := by
    simp only [sourceText, List.map_cons, List.map_nil, Text.join]
  unfold adapterText
  rw [joined, text_typeDecl, text_methodDecl named declared, text_forwardingCall, mark,
    ← String.toList_inj]
  simp

/-! ## Generated text -/

theorem exists_of_generate {query : Query} {program : Program} {decls : List Decl}
    (generated : generate query program = .ok decls) :
    ∃ target method,
      Target.resolve query program = .ok target ∧ methodDecl target = .ok method ∧
        decls = [typeDecl target, method] := by
  obtain ⟨target, resolved, generated⟩ := exists_of_bind_eq_ok generated
  obtain ⟨method, declared, generated⟩ := exists_of_bind_eq_ok generated
  rw [mapError_eq_ok_iff] at resolved declared
  cases generated
  exact ⟨target, method, resolved, declared, rfl⟩

/--
Whenever declarations are generated, they are those of the interface that the name stands for, and
their text is the layout filled in with its name, its method and the parameters of the adapter.  The
text is written unless a node of the signature is missing, and always for a well-formed program.
-/
theorem render_generate {query : Query} {program : Program} {decls : List Decl}
    (generated : generate query program = .ok decls) :
    ∃ target fields,
      Target.resolve query program = .ok target ∧
        params target.signature = .ok fields ∧
        render decls =
          (if target.signature.toExpr.complete then
            .ok (adapterText target.spec.name target.methodName target.signature fields)
          else
            .error .missingNode) ∧
        (program.WellFormed →
          render decls =
            .ok (adapterText target.spec.name target.methodName target.signature fields)) := by
  obtain ⟨target, method, resolved, declared, rfl⟩ := exists_of_generate generated
  obtain ⟨names, -, named, fits, -, -⟩ := exists_params_eq_ok target.signature
  have written : render [typeDecl target, method] =
      if target.signature.toExpr.complete then
        .ok (adapterText target.spec.name target.methodName target.signature
          (rename target.signature.params names))
      else
        .error .missingNode := by
    rw [render, all_complete_decls fits named declared, sourceText_decls fits named declared]
  refine ⟨target, _, resolved, named, written, ?_⟩
  intro wellFormed
  rw [written, if_pos (Expr.complete_of_foreign? _ (wellFormed.foreign?_target resolved))]

/-- The text for a method with blank, unnamed, colliding and variadic parameters and results. -/
theorem render_generate_mixer :
    mixerProgram.WellFormed ∧
      ∃ decls, generate ⟨"./p", "Mixer"⟩ mixerProgram = .ok decls ∧
        render decls =
          .ok ("type MixerFunc func(_, b *Widget, chan int, chan bool, v1 int, args ...any)" ++
            " (n int, err error)\n\n" ++
            "func (fn MixerFunc) Mix(widget, b *Widget, v11 chan int, v2 chan bool, v12 int," ++
            " args ...any) (n int, err error) \x7b\n" ++
            "\treturn fn(widget, b, v11, v2, v12, args...)\n\x7d\n") := by
  have wellFormed : mixerProgram.WellFormed :=
    Program.wellFormed_of_ofDocument (show Program.ofDocument mixerProgram.toDocument = _ from rfl)
  have resolves : Target.resolve ⟨"./p", "Mixer"⟩ mixerProgram =
      .ok ⟨mixerSpec, "Mix", mixerSignature⟩ := rfl
  have distinct : Naming.distinctNames (mixerSignature.params.map draftNames) =
      .ok [["widget", "b"], ["v11"], ["v2"], ["v12"], ["args"]] := by
    decide +kernel
  have named : params mixerSignature =
      .ok (rename mixerSignature.params [["widget", "b"], ["v11"], ["v2"], ["v12"], ["args"]]) := by
    rw [params, distinct]
    rfl
  have generated := generate_of_resolve resolves (methodDecl_eq_ok named)
  obtain ⟨target, fields, resolved, given, -, written⟩ := render_generate generated
  cases resolves.symm.trans resolved
  cases named.symm.trans given
  refine ⟨wellFormed, _, generated, (written wellFormed).trans (congrArg Except.ok ?_)⟩
  decide +kernel

end Adapter

end FuncAdapter
