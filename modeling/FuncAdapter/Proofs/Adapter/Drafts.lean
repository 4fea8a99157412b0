import FuncAdapter.Proofs.Adapter.Forwarding

/-!
# Declared and invented names

Before they are made distinct, the names of the parameters of an adapter are of two kinds: those
that the method declares, and those that were invented for parameters without a name and for blank
ones.  Every name is drafted as often as it was declared and invented together.
-/

namespace FuncAdapter

namespace Adapter

/-- The names that fields declare, apart from the blank one. -/
def declaredNames (fields : List Field) : List String :=
  (boundNames fields).filter fun name => name ≠ blankName

/-- How many values of a field have no name of their own, because it is missing or blank. -/
def unnamedValues (field : Field) : Nat :=
  match field.names with
  | [] => 1
  | names => names.count blankName

/-- The names that are made up from the types of values without a name of their own. -/
def inventedNames (fields : List Field) : List String :=
  fields.flatMap fun field => List.replicate (unnamedValues field) (Naming.inferred field.type)

theorem declaredNames_cons (field : Field) (fields : List Field) :
    declaredNames (field :: fields) = declaredNames [field] ++ declaredNames fields := by
  simp [declaredNames, boundNames]

theorem inventedNames_cons (field : Field) (fields : List Field) :
    inventedNames (field :: fields) = inventedNames [field] ++ inventedNames fields := by
  simp [inventedNames]

/-- Putting a name in the place of every blank keeps the other names. -/
theorem count_map_replaceBlank (names : List String) (invented name : String) :
    (names.map fun declared => if declared = blankName then invented else declared).count name =
      (names.filter fun declared => declared ≠ blankName).count name +
        (List.replicate (names.count blankName) invented).count name := by
  induction names with
  | nil => rfl
  | cons declared names ih =>
      by_cases blank : declared = blankName
      · rw [List.map_cons, if_pos blank, List.count_cons, ih, blank, List.count_cons_self,
          List.replicate_succ, List.count_cons, List.filter_cons_of_neg (by simp)]
        omega
      · rw [List.map_cons, if_neg blank, List.count_cons, ih, List.count_cons_of_ne blank,
          List.filter_cons_of_pos (by simpa using blank), List.count_cons]
        omega

theorem count_draftNames_eq_add (field : Field) (name : String) :
    (draftNames field).count name =
      (declaredNames [field]).count name + (inventedNames [field]).count name := by
  obtain ⟨names, type⟩ := field
  cases names with
  | nil => simp [draftNames, declaredNames, inventedNames, boundNames, unnamedValues]
  | cons first rest =>
      simpa [draftNames, declaredNames, inventedNames, boundNames, unnamedValues] using
        count_map_replaceBlank (first :: rest) (Naming.inferred type) name

/-- A name is drafted as often as it is declared and invented. -/
theorem count_drafts (fields : List Field) (name : String) :
    (fields.flatMap draftNames).count name =
      (declaredNames fields).count name + (inventedNames fields).count name := by
  induction fields with
  | nil => rfl
  | cons field fields ih =>
      rw [List.flatMap_cons, List.count_append, ih, count_draftNames_eq_add,
        declaredNames_cons field fields, inventedNames_cons field fields, List.count_append,
        List.count_append]
      omega

theorem mem_drafts_iff {fields : List Field} {name : String} :
    name ∈ fields.flatMap draftNames ↔
      name ∈ declaredNames fields ∨ name ∈ inventedNames fields := by
  rw [← List.count_pos_iff, ← List.count_pos_iff, ← List.count_pos_iff, count_drafts]
  omega

end Adapter

end FuncAdapter
