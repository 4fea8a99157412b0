import FuncAdapter.Proofs.Adapter.Forwarding
import FuncAdapter.Proofs.Naming.Limits
import FuncAdapter.Proofs.Naming.Numerals
import FuncAdapter.Proofs.Naming.Stability

/-!
# Names that are kept

Making names distinct changes only names that have to change.  Distinct names stay as they are.  In
any other case a name stays where it stands if it occurs once and is no other name with digits
behind it: no round repeats it, because numbers lead to it from no repeated name.

The names of an adapter's parameters are made distinct in this way, so a parameter that a method
declares under such a name has the same name in the adapter.
-/

namespace FuncAdapter

namespace Naming

/-- A name that occurs once among names, and that is no other of them with digits behind it. -/
structure StandsAlone (names : List String) (name : String) : Prop where
  single : names.count name = 1
  apart : ∀ other ∈ names, Grows other name → other = name

theorem standsAlone_iff {names : List String} {name : String} :
    StandsAlone names name ↔
      names.count name = 1 ∧ ∀ other ∈ names, Grows other name → other = name :=
  ⟨fun alone => ⟨alone.single, alone.apart⟩, fun ⟨single, apart⟩ => ⟨single, apart⟩⟩

instance (names : List String) (name : String) : Decidable (StandsAlone names name) :=
  decidable_of_iff _ standsAlone_iff.symm

/-- What becomes of groups of names of which only some have to change. -/
structure Keeps (groups result : List (List String)) : Prop where
  unchanged : groups.flatten.Nodup → result = groups
  alone :
    List.Forall₂ (List.Forall₂ fun old new => StandsAlone groups.flatten old → new = old)
      groups result

theorem StandsAlone.unreached {names : List String} {name : String}
    (alone : StandsAlone names name) :
    Unreached names name := by
  intro stem repeated grows
  have member : stem ∈ names := List.count_pos_iff.mp (Nat.zero_lt_of_lt repeated)
  exact alone.apart stem member grows

theorem forall₂_standsAlone_iterate (round : Nat) (names : List String) :
    List.Forall₂ (fun old new => StandsAlone names old → new = old)
      names (renumber^[round] names) := by
  rw [List.forall₂_iff_get]
  refine ⟨(length_iterate_renumber round names).symm, ?_⟩
  intro place before after alone
  have kept := alone.unreached.getElem?_iterate alone.single round (List.getElem?_eq_getElem before)
  rw [List.getElem?_eq_getElem after] at kept
  exact Option.some.inj kept

/-- Whatever limit names are made distinct within, only names that have to change are changed. -/
theorem keeps_of_distinctWithin {limit : Int} {groups result : List (List String)}
    (succeeds : distinctWithin limit groups = .ok result) :
    Keeps groups result := by
  obtain ⟨round, -, rfl, -, first⟩ := distinctWithin_eq_ok_iff.mp succeeds
  constructor
  · intro distinct
    -- The names that were given are the first round that is looked at.
    have start : round = 0 := Nat.eq_zero_of_not_pos fun later => first 0 later distinct
    subst start
    exact ((cutLike_iterate_iff 0).mp ⟨rfl, rfl⟩).symm
  · exact forall₂_regroup (forall₂_standsAlone_iterate round groups.flatten)

end Naming

namespace Adapter

/-- A declared name that is not blank is drafted where it stands. -/
theorem getElem?_draftNames {field : Field} {place : Nat} {name : String}
    (found : field.names[place]? = some name) (notBlank : name ≠ blankName) :
    (draftNames field)[place]? = some name := by
  rw [draftNames]
  split
  · next empty => simp [empty] at found
  · rw [List.getElem?_map, found, Option.map_some, if_neg notBlank]

/-- A field under new names has every declared name that stands alone among the drafts. -/
def KeepsDeclared (drafts : List String) (field renamed : Field) : Prop :=
  ∀ (place : Nat) (name : String),
    field.names[place]? = some name → name ≠ blankName → Naming.StandsAlone drafts name →
      renamed.names[place]? = some name

theorem keepsDeclared_mk {drafts group : List String} {field : Field}
    (kept :
      List.Forall₂ (fun old new => Naming.StandsAlone drafts old → new = old)
        (draftNames field) group) :
    KeepsDeclared drafts field (.mk group field.type) := by
  intro place name declared notBlank alone
  obtain ⟨inside, drafted⟩ := List.getElem?_eq_some_iff.mp (getElem?_draftNames declared notBlank)
  have insideGroup : place < group.length := kept.length_eq ▸ inside
  rw [Field.names_mk, List.getElem?_eq_getElem insideGroup]
  have same : group.get ⟨place, insideGroup⟩ = (draftNames field).get ⟨place, inside⟩ := by
    apply kept.get inside insideGroup
    rw [List.get_eq_getElem, drafted]
    exact alone
  exact congrArg some (same.trans drafted)

theorem forall₂_keepsDeclared_rename {drafts : List String} {fields : List Field}
    {names : List (List String)}
    (kept :
      List.Forall₂ (List.Forall₂ fun old new => Naming.StandsAlone drafts old → new = old)
        (fields.map draftNames) names) :
    List.Forall₂ (KeepsDeclared drafts) fields (rename fields names) := by
  rw [List.forall₂_map_left_iff] at kept
  induction kept with
  | nil => exact .nil
  | cons here _ ih => exact .cons (keepsDeclared_mk here) ih

/--
Names are changed only where they must be.  Groups of distinct names are left as they are; in all
groups a name that occurs once and is no other name with digits behind it is kept at its place, and
so is a declared parameter of a method with such a name in the parameters of the adapter.
-/
theorem params_keep_standalone_names :
    (∀ groups : List (List String),
      (∃ result, Naming.distinctNames groups = .ok result ∧ Naming.Keeps groups result) ∧
        ∀ limit result,
          Naming.distinctWithin limit groups = .ok result → Naming.Keeps groups result) ∧
      ∀ signature : Signature,
        ∃ fields, params signature = .ok fields ∧
          List.Forall₂ (KeepsDeclared (signature.params.flatMap draftNames))
            signature.params fields := by
  have unlimited : ∀ groups : List (List String),
      ∃ result, Naming.distinctNames groups = .ok result ∧ Naming.Keeps groups result := by
    intro groups
    obtain ⟨result, round, succeeds, -⟩ := Naming.exists_distinctNames_eq_ok groups
    exact ⟨result, succeeds, Naming.keeps_of_distinctWithin succeeds⟩
  constructor
  · intro groups
    exact ⟨unlimited groups, fun limit result => Naming.keeps_of_distinctWithin⟩
  · intro signature
    obtain ⟨names, succeeds, keeps⟩ := unlimited (signature.params.map draftNames)
    refine ⟨rename signature.params names, ?_, forall₂_keepsDeclared_rename keeps.alone⟩
    rw [params, succeeds]
    rfl

/-- The name `b` is kept beside a blank one; `v1` does not stand alone, since `v` is there too. -/
theorem params_keep_standalone_names_mixer :
    Naming.StandsAlone (mixerSignature.params.flatMap draftNames) "b" ∧
      ¬ Naming.StandsAlone (mixerSignature.params.flatMap draftNames) "v1" ∧
      ∃ first rest, params mixerSignature = .ok (first :: rest) ∧ first.names[1]? = some "b" := by
  have alone : Naming.StandsAlone (mixerSignature.params.flatMap draftNames) "b" := by
    decide +kernel
  obtain ⟨fields, named, kept⟩ := params_keep_standalone_names.2 mixerSignature
  obtain ⟨first, rest, here, -, rfl⟩ := List.forall₂_cons_left_iff.mp kept
  exact ⟨alone, by decide +kernel, first, rest, named, here 1 "b" rfl (by decide) alone⟩

end Adapter

end FuncAdapter
