import FuncAdapter.Proofs.Naming.Renumbering

/-!
# Renumbering ends

A number can run into a name that was there already, so no count of repeated names goes down from
round to round.  What goes down is seen from the end: fix a name that is repeated after some rounds
and count the places whose names are beginnings of it.

Names only grow at their ends, so a place that has left this chain never comes back.  As long as the
target is repeated later, some beginning of it is repeated now, and of the first two places of that
beginning one leaves the chain: they continue with different digits.  Since two places are left at
the end, the rounds are fewer than the names.
-/

namespace FuncAdapter.Naming

/-- A name is a beginning of another one. -/
def Begins (name target : String) : Prop :=
  name.toList <+: target.toList

instance (name target : String) : Decidable (Begins name target) :=
  inferInstanceAs (Decidable (name.toList <+: target.toList))

theorem Begins.trans {first second third : String}
    (left : Begins first second) (right : Begins second third) :
    Begins first third :=
  List.IsPrefix.trans left right

/-- A name does not continue with two different digits. -/
theorem not_begins_second {name target : String}
    (first : Begins (Pass.numbered name 1) target) :
    ¬ Begins (Pass.numbered name 2) target := by
  intro second
  have sameLength :
      (Pass.numbered name 1).toList.length = (Pass.numbered name 2).toList.length := by
    simp [Pass.numbered, show Nat.repr 1 = "1" from rfl, show Nat.repr 2 = "2" from rfl]
  have same : (Pass.numbered name 1).toList = (Pass.numbered name 2).toList :=
    (List.prefix_of_prefix_length_le first second sameLength.le).eq_of_length sameLength
  simp [Pass.numbered, show Nat.repr 1 = "1" from rfl, show Nat.repr 2 = "2" from rfl] at same

/-! ## Names followed by digits -/

/-- A name is followed by decimal digits, or by nothing, to give another one. -/
def Grows (name target : String) : Prop :=
  ∃ digits : List Char,
    (∀ digit ∈ digits, digit.isDigit = true) ∧ target.toList = name.toList ++ digits

theorem Grows.refl (name : String) : Grows name name :=
  ⟨[], by simp, by simp⟩

theorem Grows.trans {first second third : String}
    (left : Grows first second) (right : Grows second third) :
    Grows first third := by
  obtain ⟨digits, areDigits, same⟩ := left
  obtain ⟨more, moreDigits, sameMore⟩ := right
  refine ⟨digits ++ more, ?_, ?_⟩
  · intro digit member
    rcases List.mem_append.mp member with inDigits | inMore
    · exact areDigits digit inDigits
    · exact moreDigits digit inMore
  · rw [sameMore, same, List.append_assoc]

theorem Grows.begins {name target : String} (grows : Grows name target) : Begins name target := by
  obtain ⟨digits, -, same⟩ := grows
  exact ⟨digits, same.symm⟩

theorem grows_iff {name target : String} :
    Grows name target ↔
      Begins name target ∧ (target.toList.drop name.toList.length).all Char.isDigit = true := by
  constructor
  · rintro ⟨digits, areDigits, same⟩
    refine ⟨⟨digits, same.symm⟩, ?_⟩
    rw [same, List.drop_left]
    exact List.all_eq_true.mpr areDigits
  · rintro ⟨⟨digits, same⟩, areDigits⟩
    rw [← same, List.drop_left] at areDigits
    exact ⟨digits, List.all_eq_true.mp areDigits, same.symm⟩

instance (name target : String) : Decidable (Grows name target) :=
  decidable_of_iff _ grows_iff.symm

/-- Two names with the same continuation by digits differ by digits only. -/
theorem Grows.comparable {first second target : String}
    (growsFirst : Grows first target) (growsSecond : Grows second target) :
    Grows first second ∨ Grows second first := by
  wlog ordered : Begins first second
  · have either := List.prefix_or_prefix_of_prefix growsFirst.begins growsSecond.begins
    exact (this growsSecond growsFirst (either.resolve_left ordered)).symm
  · left
    obtain ⟨between, same⟩ := ordered
    obtain ⟨digits, areDigits, target_eq⟩ := growsFirst
    obtain ⟨more, -, also⟩ := growsSecond
    refine ⟨between, ?_, same.symm⟩
    intro digit member
    apply areDigits
    -- What leads to the target from the first name goes through the second one.
    have split : digits = between ++ more := by
      apply (List.append_right_inj first.toList).mp
      rw [← target_eq, also, ← same, List.append_assoc]
    rw [split]
    exact List.mem_append_left more member

/-- A number consists of digits. -/
theorem grows_numbered (name : String) (number : Nat) :
    Grows name (Pass.numbered name number) := by
  refine ⟨number.repr.toList, ?_, by simp [Pass.numbered]⟩
  intro digit member
  rw [Nat.toList_repr] at member
  exact Nat.isDigit_of_mem_toDigits (by decide) (by decide) member

/-! ## What a round does to one place -/

/-- A round adds nothing but digits to the name of a place. -/
theorem grows_renumber
    {names : List String} {place : Nat} {new : String}
    (found : (renumber names)[place]? = some new) :
    ∃ old, names[place]? = some old ∧ Grows old new := by
  rw [getElem?_renumber, Option.map_eq_some_iff] at found
  obtain ⟨old, present, rfl⟩ := found
  refine ⟨old, present, ?_⟩
  split
  · exact grows_numbered old _
  · exact Grows.refl old

/-- A place whose name is not repeated keeps it in a round. -/
theorem getElem?_renumber_of_single
    {names : List String} {place : Nat} {name : String}
    (found : names[place]? = some name) (single : ¬ 1 < names.count name) :
    (renumber names)[place]? = some name := by
  rw [getElem?_renumber, found, Option.map_some, if_neg single]

/-- A place whose name is repeated gets the number of its occurrence in a round. -/
theorem getElem?_renumber_of_repeated
    {names : List String} {place : Nat} {name : String}
    (found : names[place]? = some name) (repeated : 1 < names.count name) :
    (renumber names)[place]? =
      some (Pass.numbered name (occurrence names place name)) := by
  rw [getElem?_renumber, found, Option.map_some, if_pos repeated]

/-- Every occurrence of a name has a place. -/
theorem exists_occurrence
    {names : List String} {name : String} {earlier : Nat}
    (occurs : earlier < names.count name) :
    ∃ place, names[place]? = some name ∧ occurrence names place name = earlier + 1 := by
  induction names generalizing earlier with
  | nil => simp at occurs
  | cons head names ih =>
      by_cases same : head = name
      · subst same
        cases earlier with
        | zero => exact ⟨0, by simp, by simp [occurrence]⟩
        | succ earlier =>
            rw [List.count_cons_self] at occurs
            obtain ⟨place, found, number⟩ := ih (Nat.lt_of_succ_lt_succ occurs)
            refine ⟨place + 1, by simpa using found, ?_⟩
            simpa [occurrence] using number
      · rw [List.count_cons_of_ne same] at occurs
        obtain ⟨place, found, number⟩ := ih occurs
        refine ⟨place + 1, by simpa using found, ?_⟩
        simpa [occurrence, List.count_cons_of_ne same] using number

/-- A name stands at two different places when it is repeated, and only then. -/
theorem one_lt_count_iff {names : List String} {name : String} :
    1 < names.count name ↔
      ∃ first second : Nat,
        first ≠ second ∧ names[first]? = some name ∧ names[second]? = some name := by
  constructor
  · intro repeated
    have occurs : 0 < names.count name := by omega
    obtain ⟨first, foundFirst, numberFirst⟩ := exists_occurrence occurs
    obtain ⟨second, foundSecond, numberSecond⟩ := exists_occurrence repeated
    refine ⟨first, second, ?_, foundFirst, foundSecond⟩
    intro same
    subst same
    omega
  · rintro ⟨first, second, different, foundFirst, foundSecond⟩
    by_contra single
    have member : name ∈ names := List.mem_of_getElem? foundFirst
    have positive : 0 < names.count name := List.count_pos_iff.mpr member
    have exactlyOnce : names.count name = 1 := by omega
    apply different
    rw [place_eq_idxOf exactlyOnce foundFirst, place_eq_idxOf exactlyOnce foundSecond]

/-! ## The chain of beginnings -/

/-- The places whose names are beginnings of a target. -/
def chain (target : String) (names : List String) : Finset Nat :=
  (Finset.range names.length).filter fun place =>
    names[place]?.any fun name => decide (Begins name target)

theorem mem_chain {target : String} {names : List String} {place : Nat} :
    place ∈ chain target names ↔ ∃ name, names[place]? = some name ∧ Begins name target := by
  rw [chain, Finset.mem_filter, Finset.mem_range, Option.any_eq_true]
  constructor
  · rintro ⟨-, name, found, begins⟩
    exact ⟨name, found, of_decide_eq_true begins⟩
  · rintro ⟨name, found, begins⟩
    obtain ⟨inside, -⟩ := List.getElem?_eq_some_iff.mp found
    exact ⟨inside, name, found, decide_eq_true begins⟩

theorem card_chain_le (target : String) (names : List String) :
    (chain target names).card ≤ names.length := by
  calc
    (chain target names).card ≤ (Finset.range names.length).card :=
      Finset.card_le_card (Finset.filter_subset _ _)
    _ = names.length := Finset.card_range _

/-- A repeated target has two places on its own chain. -/
theorem two_le_card_chain {target : String} {names : List String}
    (repeated : 1 < names.count target) :
    2 ≤ (chain target names).card := by
  obtain ⟨first, second, different, foundFirst, foundSecond⟩ := one_lt_count_iff.mp repeated
  have onChain : {first, second} ⊆ chain target names := by
    intro place member
    rw [Finset.mem_insert, Finset.mem_singleton] at member
    rcases member with rfl | rfl
    · exact mem_chain.mpr ⟨target, foundFirst, List.prefix_refl _⟩
    · exact mem_chain.mpr ⟨target, foundSecond, List.prefix_refl _⟩
  calc
    2 = ({first, second} : Finset Nat).card := (Finset.card_pair different).symm
    _ ≤ (chain target names).card := Finset.card_le_card onChain

/-- A round adds no place to the chain. -/
theorem chain_renumber_subset (target : String) (names : List String) :
    chain target (renumber names) ⊆ chain target names := by
  intro place member
  obtain ⟨new, found, begins⟩ := mem_chain.mp member
  obtain ⟨old, present, grows⟩ := grows_renumber found
  exact mem_chain.mpr ⟨old, present, grows.begins.trans begins⟩

/-- A round takes a place off the chain when a name of the chain is repeated. -/
theorem card_chain_renumber_lt
    {name target : String} {names : List String}
    (repeated : 1 < names.count name) (begins : Begins name target) :
    (chain target (renumber names)).card < (chain target names).card := by
  apply Finset.card_lt_card
  refine ⟨chain_renumber_subset target names, ?_⟩
  intro allStay
  -- Both the first and the second occurrence would have to stay.
  have stays : ∀ earlier < 2, Begins (Pass.numbered name (earlier + 1)) target := by
    intro earlier before
    have occurs : earlier < names.count name := by omega
    obtain ⟨place, found, number⟩ := exists_occurrence occurs
    obtain ⟨new, foundNew, stillBegins⟩ :=
      mem_chain.mp (allStay (mem_chain.mpr ⟨name, found, begins⟩))
    rw [getElem?_renumber_of_repeated found repeated, number] at foundNew
    exact (Option.some.inj foundNew) ▸ stillBegins
  exact not_begins_second (stays 0 (by omega)) (stays 1 (by omega))

/-! ## Whole runs -/

/-- A repetition comes from a repetition in the round before of a name that grows into it. -/
theorem exists_repeated_of_renumber {names : List String} {target : String}
    (repeated : 1 < (renumber names).count target) :
    ∃ name, Grows name target ∧ 1 < names.count name := by
  obtain ⟨first, second, different, foundFirst, foundSecond⟩ := one_lt_count_iff.mp repeated
  obtain ⟨oldFirst, presentFirst, growsFirst⟩ := grows_renumber foundFirst
  obtain ⟨oldSecond, presentSecond, growsSecond⟩ := grows_renumber foundSecond
  by_cases repeatedFirst : 1 < names.count oldFirst
  · exact ⟨oldFirst, growsFirst, repeatedFirst⟩
  · by_cases repeatedSecond : 1 < names.count oldSecond
    · exact ⟨oldSecond, growsSecond, repeatedSecond⟩
    · -- Both places kept their names, so the target was repeated before the round.
      rw [getElem?_renumber_of_single presentFirst repeatedFirst] at foundFirst
      rw [getElem?_renumber_of_single presentSecond repeatedSecond] at foundSecond
      have before : 1 < names.count target :=
        one_lt_count_iff.mpr
          ⟨first, second, different, presentFirst.trans foundFirst,
            presentSecond.trans foundSecond⟩
      exact ⟨target, Grows.refl target, before⟩

theorem exists_repeated_of_iterate {names : List String} {target : String} (round : Nat)
    (repeated : 1 < (renumber^[round] names).count target) :
    ∃ name, Grows name target ∧ 1 < names.count name := by
  induction round generalizing names with
  | zero => exact ⟨target, Grows.refl target, repeated⟩
  | succ round ih =>
      rw [Function.iterate_succ_apply] at repeated
      obtain ⟨middle, growsMiddle, repeatedMiddle⟩ := ih repeated
      obtain ⟨name, grows, repeatedName⟩ := exists_repeated_of_renumber repeatedMiddle
      exact ⟨name, grows.trans growsMiddle, repeatedName⟩

/-- A name that is repeated after some rounds has two more places on its chain than rounds. -/
theorem round_add_two_le_card_chain {names : List String} {target : String} (round : Nat)
    (repeated : 1 < (renumber^[round] names).count target) :
    round + 2 ≤ (chain target names).card := by
  induction round generalizing names with
  | zero => simpa using two_le_card_chain repeated
  | succ round ih =>
      obtain ⟨name, grows, repeatedName⟩ := exists_repeated_of_iterate (round + 1) repeated
      have fewer := card_chain_renumber_lt repeatedName grows.begins
      have later : round + 2 ≤ (chain target (renumber names)).card := ih repeated
      omega

/-- The names are distinct after one round less than there are names. -/
theorem nodup_iterate_renumber {names : List String} {round : Nat}
    (enough : names.length ≤ round + 1) :
    (renumber^[round] names).Nodup := by
  rw [List.nodup_iff_count_le_one]
  intro target
  by_contra repeated
  have onChain := round_add_two_le_card_chain round (Nat.lt_of_not_le repeated)
  have inside := card_chain_le target names
  omega

/-- Rounds that end with distinct names end with the same names. -/
theorem iterate_eq_of_nodup {names : List String} {first second : Nat}
    (distinctFirst : (renumber^[first] names).Nodup)
    (distinctSecond : (renumber^[second] names).Nodup) :
    renumber^[first] names = renumber^[second] names := by
  wlog ordered : first ≤ second
  · exact (this distinctSecond distinctFirst (by omega)).symm
  · obtain ⟨more, rfl⟩ := Nat.exists_eq_add_of_le' ordered
    rw [Function.iterate_add_apply]
    exact (Function.iterate_fixed (renumber_of_nodup distinctFirst) more).symm

/-- Passes find a distinct iterate that lies within their number. -/
theorem exists_number_of_nodup_iterate {names : List String} {round passes : Nat}
    (distinct : (renumber^[round] names).Nodup) (inside : round < passes) :
    ∃ result, number passes names = .distinct result := by
  induction passes generalizing names round with
  | zero => omega
  | succ passes ih =>
      rw [number_succ]
      by_cases already : names.Nodup
      · exact ⟨names, if_pos already⟩
      · rw [if_neg already]
        cases round with
        | zero => exact absurd distinct already
        | succ round => exact ih distinct (by omega)

/-- A limit that reaches a distinct round gives the names of that round. -/
theorem distinctWithin_of_nodup_iterate {limit : Int} {groups : List (List String)} {round : Nat}
    (distinct : (renumber^[round] groups.flatten).Nodup) (inside : round < limit.toNat) :
    distinctWithin limit groups = .ok (regroup groups (renumber^[round] groups.flatten)) := by
  obtain ⟨names, numbered⟩ := exists_number_of_nodup_iterate distinct inside
  obtain ⟨first, -, rfl, distinctFirst, -⟩ := (number_eq_distinct_iff _ _ _).mp numbered
  rw [distinctWithin, numbered, iterate_eq_of_nodup distinct distinctFirst]

/--
A limit of as many passes as names, and at least one, is enough for groups of names.  The groups
keep their sizes, and their names come from rounds of renumbering.
-/
theorem exists_distinctWithin_eq_ok (groups : List (List String)) {limit : Int}
    (enough : (max 1 groups.flatten.length : Nat) ≤ limit) :
    ∃ result round,
      distinctWithin limit groups = .ok result ∧
        result.map List.length = groups.map List.length ∧
        result.flatten = renumber^[round] groups.flatten ∧
        result.flatten.Nodup := by
  have last : (renumber^[limit.toNat - 1] groups.flatten).Nodup :=
    nodup_iterate_renumber (by omega)
  have inside : limit.toNat - 1 < limit.toNat := by omega
  have sameLength : (renumber^[limit.toNat - 1] groups.flatten).length = groups.flatten.length :=
    length_iterate_renumber _ groups.flatten
  have flattened := flatten_regroup groups _ sameLength
  refine ⟨_, limit.toNat - 1, distinctWithin_of_nodup_iterate last inside, ?_, flattened, ?_⟩
  · exact map_length_regroup groups _ sameLength
  · rw [flattened]
    exact last

/-- The limit that is used when none is given is enough for any number of names. -/
theorem max_one_le_defaultLimit (count : Nat) : (max 1 count : Nat) ≤ defaultLimit count := by
  rw [defaultLimit]
  omega

theorem exists_distinctNames_eq_ok (groups : List (List String)) :
    ∃ result round,
      distinctNames groups = .ok result ∧
        result.map List.length = groups.map List.length ∧
        result.flatten = renumber^[round] groups.flatten ∧
        result.flatten.Nodup :=
  exists_distinctWithin_eq_ok groups (max_one_le_defaultLimit groups.flatten.length)

/--
The names of groups are made distinct within any limit of passes that is at least the number of
names and at least one, and so within the limit that is used when none is given.
-/
theorem distinctWithin_succeeds (groups : List (List String)) :
    (∀ limit : Int, (max 1 groups.flatten.length : Nat) ≤ limit →
      ∃ result, distinctWithin limit groups = .ok result ∧ result.flatten.Nodup) ∧
    ∃ result, distinctNames groups = .ok result ∧ result.flatten.Nodup := by
  constructor
  · intro limit enough
    obtain ⟨result, round, succeeds, -, -, distinct⟩ := exists_distinctWithin_eq_ok groups enough
    exact ⟨result, succeeds, distinct⟩
  · obtain ⟨result, round, succeeds, -, -, distinct⟩ := exists_distinctNames_eq_ok groups
    exact ⟨result, succeeds, distinct⟩

/-- Eleven equal names and the first of their numbered forms collide again at two digits. -/
theorem distinctWithin_succeeds_two_digits :
    ((max 1 [List.replicate 11 "v", ["v1"]].flatten.length : Nat) : Int) ≤ 12 ∧
      ∃ result,
        distinctWithin 12 [List.replicate 11 "v", ["v1"]] = .ok result ∧ result.flatten.Nodup :=
  ⟨by decide, (distinctWithin_succeeds [List.replicate 11 "v", ["v1"]]).1 12 (by decide)⟩

end FuncAdapter.Naming
