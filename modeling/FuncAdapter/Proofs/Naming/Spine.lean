import FuncAdapter.Naming.TypeName
import Mathlib.Logic.ExistsUnique

/-!
# Names and the spine of a type

A type is a base in layers: pointers, slices, arrays and maps, each around the type that it leads
to, points to or holds.  Lengths of arrays and keys of maps stand beside the spine and are not
entered.  Every type has exactly one spine, because a base is what is left when no layer can be
taken off.

The name for a parameter is the name for the base with one letter for each layer that holds many
values.  So nothing beside the spine has a part in it, and neither have pointers.
-/

namespace FuncAdapter

/-- What may stand around a type. -/
inductive Layer where
  | pointer
  /-- A slice, or an array when there is a length. -/
  | array (length : Option String)
  /-- A map to the values from keys of some type. -/
  | map (key : Expr)

namespace Layer

/-- A type in a layer. -/
def wrap : Layer → Expr → Expr
  | .pointer, type => .pointer type
  | .array length, type => .array type length
  | .map key, type => .map key type

/-- Whether a layer holds any number of values of the type in it. -/
def holdsMany : Layer → Bool
  | .pointer => false
  | .array _ => true
  | .map _ => true

end Layer

namespace Expr

/-- A type in layers, the outermost first. -/
def wrapAll (layers : List Layer) (base : Expr) : Expr :=
  layers.foldr Layer.wrap base

@[simp]
theorem wrapAll_nil (base : Expr) : wrapAll [] base = base := rfl

@[simp]
theorem wrapAll_cons (layer : Layer) (layers : List Layer) (base : Expr) :
    wrapAll (layer :: layers) base = layer.wrap (wrapAll layers base) := rfl

/-- A type around which there is no layer. -/
def Bare (type : Expr) : Prop :=
  ∀ layer inner, type ≠ Layer.wrap layer inner

/-- The layers of a type, the outermost first, and the base in them. -/
def spine : Expr → List Layer × Expr
  | .pointer target => (.pointer :: (spine target).1, (spine target).2)
  | .array element length => (.array length :: (spine element).1, (spine element).2)
  | .map key value => (.map key :: (spine value).1, (spine value).2)
  | base => ([], base)

@[simp]
theorem spine_wrap (layer : Layer) (type : Expr) :
    (layer.wrap type).spine = (layer :: type.spine.1, type.spine.2) := by
  cases layer <;> rfl

theorem bare_iff_spine {type : Expr} : type.Bare ↔ type.spine = ([], type) := by
  constructor
  · intro bare
    cases type with
    | pointer target => exact absurd rfl (bare .pointer target)
    | array element length => exact absurd rfl (bare (.array length) element)
    | map key value => exact absurd rfl (bare (.map key) value)
    | _ => rfl
  · rintro alone layer inner rfl
    rw [spine_wrap] at alone
    cases alone

/-- The base of a type is bare, and the type is this base in its layers. -/
theorem bare_and_wrapAll_spine (type : Expr) :
    type.spine.2.Bare ∧ wrapAll type.spine.1 type.spine.2 = type := by
  fun_induction spine type with
  | case1 target ih => exact ⟨ih.1, congrArg Expr.pointer ih.2⟩
  | case2 element length ih => exact ⟨ih.1, congrArg (Expr.array · length) ih.2⟩
  | case3 key value ih => exact ⟨ih.1, congrArg (Expr.map key) ih.2⟩
  | case4 base notPointer notArray notMap =>
      refine ⟨?_, rfl⟩
      rintro (_ | length | key) inner rfl
      · exact notPointer inner rfl
      · exact notArray inner length rfl
      · exact notMap key inner rfl

/-- The spine of a bare type in layers consists of these layers and this type. -/
theorem spine_wrapAll (layers : List Layer) {base : Expr} (bare : base.Bare) :
    (wrapAll layers base).spine = (layers, base) := by
  induction layers with
  | nil => exact bare_iff_spine.mp bare
  | cons layer layers ih => rw [wrapAll_cons, spine_wrap, ih]

/-- Every type is a bare type in layers in exactly one way. -/
theorem existsUnique_spine (type : Expr) :
    ∃! spine : List Layer × Expr, spine.2.Bare ∧ wrapAll spine.1 spine.2 = type := by
  refine ⟨type.spine, bare_and_wrapAll_spine type, ?_⟩
  rintro ⟨layers, base⟩ ⟨bare, rfl⟩
  exact (spine_wrapAll layers bare).symm

end Expr

namespace Naming

/-! ## Names for bases -/

/-- The name for a parameter whose type is a base. -/
inductive BaseName : Expr → String → Prop where
  | ident (name : String) : BaseName (.ident name) (unexported name)
  | context : BaseName (.selector (.ident "context") "Context") "ctx"
  | selector {qualifier : Expr} {name : String}
      (other : ¬ (qualifier = .ident "context" ∧ name = "Context")) :
      BaseName (.selector qualifier name) (unexported name)
  | other {base : Expr} (bare : base.Bare) (unnamed : ∀ name, base ≠ .ident name)
      (unselected : ∀ qualifier name, base ≠ .selector qualifier name) :
      BaseName base "v"

theorem baseName_selectedName (qualifier : Expr) (name : String) :
    BaseName (.selector qualifier name) (selectedName qualifier name) := by
  unfold selectedName
  split
  · split
    · next context =>
        subst context
        exact .context
    · next other => exact .selector fun both => other both.2
  · next other => exact .selector fun both => other both.1

theorem baseName_inferred {base : Expr} (bare : base.Bare) : BaseName base (inferred base) := by
  cases base with
  | ident name => exact .ident name
  | selector qualifier name => exact baseName_selectedName qualifier name
  | pointer target => exact absurd rfl (bare .pointer target)
  | array element length => exact absurd rfl (bare (.array length) element)
  | map key value => exact absurd rfl (bare (.map key) value)
  | _ => exact .other bare nofun nofun

/-! ## Names for types in layers -/

/-- The plural of a name, taken as often as given. -/
def pluralized (name : String) (times : Nat) : String :=
  name ++ String.ofList (List.replicate times 's')

@[simp]
theorem pluralized_zero (name : String) : pluralized name 0 = name :=
  String.append_empty

theorem pluralized_succ (name : String) (times : Nat) :
    pluralized name (times + 1) = pluralized name times ++ "s" := by
  rw [pluralized, List.replicate_succ', String.ofList_append, ← String.append_assoc]
  rfl

/-- A layer makes the name plural if it holds many values, and else leaves it. -/
theorem inferred_wrap (layer : Layer) (type : Expr) :
    inferred (layer.wrap type) =
      if layer.holdsMany then inferred type ++ "s" else inferred type := by
  cases layer <;> rfl

theorem inferred_wrapAll (layers : List Layer) (base : Expr) :
    inferred (Expr.wrapAll layers base) =
      pluralized (inferred base) (layers.countP Layer.holdsMany) := by
  induction layers with
  | nil => exact (pluralized_zero _).symm
  | cons layer layers ih =>
      rw [Expr.wrapAll_cons, inferred_wrap, ih, List.countP_cons]
      split
      · exact (pluralized_succ _ _).symm
      · rfl

/--
The name for a parameter depends only on the spine of its type, of which every type has exactly one:
it is the name for the base, followed by one letter for each slice, array or map in the spine,
whatever the lengths and keys are and however many pointers there are.
-/
theorem inferred_eq_of_spine :
    (∀ type : Expr,
      ∃! spine : List Layer × Expr, spine.2.Bare ∧ Expr.wrapAll spine.1 spine.2 = type) ∧
      ∀ (layers : List Layer) (base : Expr), base.Bare →
        inferred (Expr.wrapAll layers base) =
            inferred base ++ String.ofList (List.replicate (layers.countP Layer.holdsMany) 's') ∧
          BaseName base (inferred base) := by
  constructor
  · exact Expr.existsUnique_spine
  · intro layers base bare
    exact ⟨inferred_wrapAll layers base, baseName_inferred bare⟩

/-- A map from functions to pointers to arrays of contexts, and a slice of channels. -/
theorem inferred_eq_of_spine_contexts :
    Expr.Bare (.selector (.ident "context") "Context") ∧
      inferred
          (.map (.func [] none)
            (.pointer (.array (.selector (.ident "context") "Context") (some "2*N")))) =
        "ctxss" ∧
      Expr.Bare (.raw "chan int") ∧ inferred (.array (.raw "chan int") none) = "vs" := by
  have bareContext : Expr.Bare (.selector (.ident "context") "Context") := by
    rintro (_ | length | key) inner same <;> cases same
  have bareChannel : Expr.Bare (.raw "chan int") := by
    rintro (_ | length | key) inner same <;> cases same
  refine ⟨bareContext, ?_, bareChannel, ?_⟩
  · exact (inferred_eq_of_spine.2
      [.map (.func [] none), .pointer, .array (some "2*N")] _ bareContext).1
  · exact (inferred_eq_of_spine.2 [.array none] _ bareChannel).1

end Naming

end FuncAdapter
