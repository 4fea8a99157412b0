import FuncAdapter.Proofs.Adapter.Forwarding
import FuncAdapter.Proofs.Naming.Stability
import FuncAdapter.Proofs.Naming.TypeName
import Mathlib.Algebra.Ring.Nat

/-!
# The receiver among the other names of an adapter

The receiver of an adapter always has the same name.  Nothing keeps this name apart from the names
of the parameters and results, which come from the method: parameters are only made distinct among
themselves, and results are copied.

The main statement says exactly when the receiver shares its name: when one single parameter is
drafted under it, or when some result has it.  Two such parameters do not, because both are given
numbers.
-/

namespace FuncAdapter

namespace Adapter

/-! ## Types that suggest the name of the receiver -/

/-- What is kept or lowered to a small letter other than k is that letter or its capital. -/
theorem eq_or_capital {old new : Char}
    (letter : (0x61 ≤ new.toNat ∧ new.toNat ≤ 0x7a) ∧ new.toNat ≠ 0x6b)
    (related : old = new ∨ Text.lowerSimple old = new) :
    old = new ∨ old.toNat + 32 = new.toNat := by
  rcases related with same | lowered
  · exact Or.inl same
  · exact Text.eq_or_capital_of_lowerSimple letter.1.1 letter.1.2 letter.2 lowered

theorem unexportedCharacters_eq_receiver_iff (characters : List Char) :
    Naming.unexportedCharacters characters = ['f', 'n'] ↔
      characters = ['f', 'n'] ∨ characters = ['F', 'n'] ∨ characters = ['F', 'N'] := by
  constructor
  · intro unexported
    have plain : ∀ character ∈ ['f', 'n'], Text.isPlain character = true := by
      simp [Text.isPlain]
    have places := Naming.forall₂_of_unexportedCharacters plain unexported
    rw [List.forall₂_cons_right_iff] at places
    obtain ⟨first, rest, relatedFirst, places, rfl⟩ := places
    rw [List.forall₂_cons_right_iff] at places
    obtain ⟨second, rest, relatedSecond, places, rfl⟩ := places
    rw [List.forall₂_nil_right_iff] at places
    subst places
    have firstLetter : first = 'f' ∨ first = 'F' := by
      simpa [← Char.toNat_inj, Nat.add_right_cancel_iff] using
        eq_or_capital (by decide) relatedFirst
    have secondLetter : second = 'n' ∨ second = 'N' := by
      simpa [← Char.toNat_inj] using eq_or_capital (by decide) relatedSecond
    -- The spelling `fN` starts with a small letter, so it is kept and is not the receiver.
    rcases firstLetter with rfl | rfl
    · rcases secondLetter with rfl | rfl
      · exact Or.inl rfl
      · exact absurd unexported (by decide +kernel)
    · rcases secondLetter with rfl | rfl
      · exact Or.inr (Or.inl rfl)
      · exact Or.inr (Or.inr rfl)
  · rintro (rfl | rfl | rfl)
    · decide +kernel
    · decide +kernel
    · decide +kernel

/-- Whether a name becomes the name of the receiver when it is unexported. -/
def isReceiverForm (name : String) : Bool :=
  name = "fn" ∨ name = "Fn" ∨ name = "FN"

theorem unexported_eq_receiverName_iff (name : String) :
    Naming.unexported name = receiverName ↔ isReceiverForm name = true := by
  rw [Naming.unexported, receiverName, ← String.toList_inj, String.toList_ofList]
  rw [show "fn".toList = ['f', 'n'] from rfl, unexportedCharacters_eq_receiver_iff,
    isReceiverForm, decide_eq_true_iff, ← String.toList_inj, ← String.toList_inj,
    ← String.toList_inj]
  rfl

/--
Whether a parameter of a type would be named like the receiver: behind its pointers the type is a
name that is unexported to it, also one in a package.
-/
def suggestsReceiver : Expr → Bool
  | .pointer target => suggestsReceiver target
  | .ident name => isReceiverForm name
  | .selector _ name => isReceiverForm name
  | _ => false

theorem inferred_eq_receiverName_iff (type : Expr) :
    Naming.inferred type = receiverName ↔ suggestsReceiver type = true := by
  rw [Naming.inferred_eq_iff (by decide) (by decide) (by decide)]
  fun_induction suggestsReceiver type with
  | case1 target ih => simpa [Naming.typeName?] using ih
  | case2 name => simpa [Naming.typeName?] using unexported_eq_receiverName_iff name
  | case3 qualifier name => simpa [Naming.typeName?] using unexported_eq_receiverName_iff name
  | case4 type notPointer notIdent notSelector =>
      cases type with
      | pointer target => exact (notPointer target rfl).elim
      | ident name => exact (notIdent name rfl).elim
      | selector qualifier name => exact (notSelector qualifier name rfl).elim
      | _ => simp [Naming.typeName?]

/-! ## Parameters under the name of the receiver -/

/--
How many values of a field are drafted under the name of the receiver: those declared under it, and
those without a name of their own whose type suggests it.
-/
def receiverDrafts (field : Field) : Nat :=
  match field.names with
  | [] => if suggestsReceiver field.type then 1 else 0
  | names =>
      names.countP fun name => name = "fn" ∨ (name = "_" ∧ suggestsReceiver field.type = true)

theorem count_draftNames (field : Field) :
    (draftNames field).count receiverName = receiverDrafts field := by
  obtain ⟨names, type⟩ := field
  have inferred := inferred_eq_receiverName_iff type
  cases names with
  | nil =>
      by_cases suggests : suggestsReceiver type = true
      · simp [draftNames, receiverDrafts, inferred.mpr suggests, suggests]
      · have other : Naming.inferred type ≠ receiverName := mt inferred.mp suggests
        simp [draftNames, receiverDrafts, other, suggests]
  | cons first rest =>
      simp only [draftNames, receiverDrafts, Field.names_mk, Field.type_mk]
      rw [List.count_eq_countP, List.countP_map]
      apply List.countP_congr
      intro name _
      by_cases blank : name = blankName
      · subst blank
        simp [inferred, blankName]
      · have noBlank : name ≠ "_" := blank
        simp [blank, noBlank, receiverName]

theorem count_flatMap_draftNames (fields : List Field) :
    (fields.flatMap draftNames).count receiverName = (fields.map receiverDrafts).sum := by
  rw [List.count_flatMap]
  congr 1
  apply List.map_congr_left
  intro field _
  exact count_draftNames field

/-- The name of the receiver does not end with a digit. -/
theorem undigited_receiverName : Naming.Undigited receiverName :=
  Naming.undigited_of_getLast? (show receiverName.toList.getLast? = some 'n' from rfl) rfl

/--
The receiver of an adapter has a name of its own exactly when the parameters drafted under that name
are none or several, and no result has it.
-/
theorem receiver_apart_iff (target : Target) :
    ∃ fields statements,
      methodDecl target =
          .ok
            (.func (some (.mk ["fn"] (.ident (typeName target)))) target.methodName
              ⟨fields, target.signature.results⟩ statements) ∧
        (("fn" ∉ boundNames fields ∧ "fn" ∉ boundNames (target.signature.results.getD [])) ↔
          (target.signature.params.map receiverDrafts).sum ≠ 1 ∧
            ∀ result ∈ target.signature.results.getD [], "fn" ∉ result.names) := by
  obtain ⟨names, round, named, fits, numbered, distinct⟩ :=
    exists_params_eq_ok target.signature
  refine ⟨rename target.signature.params names, _, methodDecl_eq_ok named, ?_⟩
  have amongParameters :
      "fn" ∈ boundNames (rename target.signature.params names) ↔
        (target.signature.params.map receiverDrafts).sum = 1 := by
    rw [fits.boundNames_rename, ← count_flatMap_draftNames, numbered]
    rw [numbered] at distinct
    exact undigited_receiverName.mem_iterate_iff distinct
  have amongResults :
      "fn" ∈ boundNames (target.signature.results.getD []) ↔
        ∃ result ∈ target.signature.results.getD [], "fn" ∈ result.names :=
    List.mem_flatMap
  rw [amongParameters, amongResults]
  simp only [not_exists, not_and, ne_eq]

/-- An interface whose method takes a callback under the name of the receiver. -/
def visitorSpec : TypeSpec :=
  ⟨"Visitor",
    .interface
      [.mk ["Visit"]
        (.func [.mk ["fn"] (.func [] (some [.mk [] (.ident "error")]))]
          (some [.mk [] (.ident "error")]))],
    none⟩

/-- A program whose only object is that interface. -/
def visitorProgram : Program :=
  ⟨.ofEntries [(.text "p", ⟨.ofEntries [(.text "p.go",
    ⟨.ofEntries [(.text "Visitor", ⟨.type, some visitorSpec⟩)]⟩)]⟩)]⟩

/-- The adapter for a callback called `fn` calls the callback with itself. -/
theorem receiver_shadowed_by_callback :
    ∃ fields arguments,
      generate ⟨"./p", "Visitor"⟩ visitorProgram =
          .ok
            [.types [⟨"VisitorFunc", .func fields (some [.mk [] (.ident "error")]), none⟩],
              .func (some (.mk ["fn"] (.ident "VisitorFunc"))) "Visit"
                ⟨fields, some [.mk [] (.ident "error")]⟩
                [.result [.call (.ident "fn") arguments false]]] ∧
        "fn" ∈ boundNames fields :=
  ⟨_, _, rfl, by decide⟩

end Adapter

end FuncAdapter
