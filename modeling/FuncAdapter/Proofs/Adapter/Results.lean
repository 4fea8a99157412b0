import FuncAdapter.Proofs.Adapter.Drafts
import FuncAdapter.Proofs.Naming.Stability

/-!
# Results among the parameters of an adapter

The results of an adapter are copied from the method, while names for its parameters may be invented
and numbered.  In Go both stand in one scope, but nothing keeps an invented name away from a result.

Suppose that the names a method declares are distinct.  The main statement gives the names that the
parameters end up with, and says of every result when it is one of them: when its name was invented
exactly once.  A name that was invented several times is given numbers and is free again.  The
condition is exact unless numbers lead from a repeated name to the result.
-/

namespace FuncAdapter

namespace Adapter

/-- With as many rounds as there are names, the names are as distinct as they will be. -/
theorem boundNames_eq_iterate {fields : List Field} {names : List (List String)} {round : Nat}
    (fits : Fits fields names)
    (numbered : names.flatten = Naming.renumber^[round] (fields.flatMap draftNames))
    (distinct : names.flatten.Nodup) :
    boundNames (rename fields names) =
      Naming.renumber^[(fields.flatMap draftNames).length] (fields.flatMap draftNames) := by
  rw [fits.boundNames_rename, numbered]
  rw [numbered] at distinct
  exact Naming.iterate_eq_of_nodup distinct (Naming.nodup_iterate_renumber (Nat.le_succ _))

/-- A name that is declared elsewhere is drafted only where it is invented. -/
theorem count_drafts_of_declared_elsewhere {params results : List Field} {name : String}
    (distinct : (declaredNames params ++ declaredNames results).Nodup)
    (elsewhere : name ∈ declaredNames results) :
    (params.flatMap draftNames).count name = (inventedNames params).count name := by
  have undeclared : name ∉ declaredNames params := fun declared =>
    (List.nodup_append.mp distinct).2.2 name declared name elsewhere rfl
  rw [count_drafts, List.count_eq_zero.mpr undeclared, Nat.zero_add]

/--
If the declared names of a method are distinct, a result whose name numbers do not lead to shares it
with a parameter of the adapter exactly when the name was invented once.
-/
theorem result_taken_iff (target : Target)
    (distinct :
      (declaredNames target.signature.params ++
        declaredNames (target.signature.results.getD [])).Nodup) :
    ∃ fields statements,
      methodDecl target =
          .ok
            (.func (some (.mk ["fn"] (.ident (typeName target)))) target.methodName
              ⟨fields, target.signature.results⟩ statements) ∧
        boundNames fields =
          Naming.renumber^[(target.signature.params.flatMap draftNames).length]
            (target.signature.params.flatMap draftNames) ∧
        ∀ name ∈ declaredNames (target.signature.results.getD []),
          Naming.Unreached (target.signature.params.flatMap draftNames) name →
            (name ∈ boundNames fields ↔
              (inventedNames target.signature.params).count name = 1) := by
  obtain ⟨names, round, named, fits, numbered, apart⟩ := exists_params_eq_ok target.signature
  have settled := boundNames_eq_iterate fits numbered apart
  refine ⟨_, _, methodDecl_eq_ok named, settled, ?_⟩
  intro name isResult unreached
  rw [← fits.boundNames_rename, settled] at apart
  rw [settled, unreached.mem_iterate_iff apart,
    count_drafts_of_declared_elsewhere distinct isResult]

/-- A method with an unnamed parameter and named results: `Read([]byte) (bytes int, err error)`. -/
def readerSignature : Signature :=
  ⟨[.mk [] (.array (.ident "byte") none)],
    some [.mk ["bytes"] (.ident "int"), .mk ["err"] (.ident "error")]⟩

/-- An interface that declares only that method. -/
def readerSpec : TypeSpec :=
  ⟨"Reader", .interface [.mk ["Read"] readerSignature.toExpr], none⟩

theorem result_taken_iff_reader :
    (declaredNames readerSignature.params ++
        declaredNames (readerSignature.results.getD [])).Nodup ∧
      ∃ fields statements,
        methodDecl ⟨readerSpec, "Read", readerSignature⟩ =
            .ok
              (.func (some (.mk ["fn"] (.ident "ReaderFunc"))) "Read"
                ⟨fields, readerSignature.results⟩ statements) ∧
          "bytes" ∈ boundNames fields ∧ "err" ∉ boundNames fields := by
  have distinct :
      (declaredNames readerSignature.params ++
        declaredNames (readerSignature.results.getD [])).Nodup := by
    decide
  obtain ⟨fields, statements, declared, -, taken⟩ :=
    result_taken_iff ⟨readerSpec, "Read", readerSignature⟩ distinct
  have bytesUnreached :=
    (Naming.undigited_of_getLast? (show "bytes".toList.getLast? = some 's' from rfl) rfl).unreached
      (readerSignature.params.flatMap draftNames)
  have errUnreached :=
    (Naming.undigited_of_getLast? (show "err".toList.getLast? = some 'r' from rfl) rfl).unreached
      (readerSignature.params.flatMap draftNames)
  have bytesTaken := (taken "bytes" (by decide) bytesUnreached).mpr (by decide +kernel)
  have errFree := mt (taken "err" (by decide) errUnreached).mp (by decide +kernel)
  exact ⟨distinct, fields, statements, declared, bytesTaken, errFree⟩

/-- A program whose only object is that interface. -/
def readerProgram : Program :=
  ⟨.ofEntries [(.text "p", ⟨.ofEntries [(.text "p.go",
    ⟨.ofEntries [(.text "Reader", ⟨.type, some readerSpec⟩)]⟩)]⟩)]⟩

/-- The names `bytes` and `err` are declared once each, but the adapter declares `bytes` twice. -/
theorem result_shares_invented_name :
    (declaredNames readerSignature.params ++
        declaredNames (readerSignature.results.getD [])).Nodup ∧
      ∃ fields statements,
        generate ⟨"./p", "Reader"⟩ readerProgram =
            .ok
              [.types [⟨"ReaderFunc", readerSignature.toExpr, none⟩],
                .func (some (.mk ["fn"] (.ident "ReaderFunc"))) "Read"
                  ⟨fields, readerSignature.results⟩ statements] ∧
          "bytes" ∈ boundNames fields ∧
          "bytes" ∈ declaredNames (readerSignature.results.getD []) :=
  ⟨by decide, _, _, rfl, by decide +kernel, by decide⟩

end Adapter

end FuncAdapter
