import FuncAdapter.Naming.Distinct
import Mathlib.Data.Finset.Card

/-!
# Passes as simultaneous renumbering

A pass goes back to the first occurrence of a name when it meets the second one.  This module shows
that the result is the same as numbering every occurrence of every repeated name at once: `renumber`
looks at the old names only.

The invariant of a pass is `Pass.Reads`.  It is preserved by every visit, so it holds after a whole
pass, and a limited number of passes is then a search among the iterates of `renumber` for the first
one without a repeated name.
-/

namespace FuncAdapter.Naming

/-- The number of an occurrence of a name at a place: one more than the equal names before it. -/
def occurrence (names : List String) (place : Nat) (name : String) : Nat :=
  (names.take place).count name + 1

/-- Number all occurrences of all repeated names at once. -/
def renumber (names : List String) : List String :=
  names.mapIdx fun place name =>
    if 1 < names.count name then Pass.numbered name (occurrence names place name) else name

@[simp]
theorem length_renumber (names : List String) : (renumber names).length = names.length := by
  simp [renumber]

theorem getElem?_renumber (names : List String) (place : Nat) :
    (renumber names)[place]? =
      names[place]?.map fun name =>
        if 1 < names.count name then
          Pass.numbered name (occurrence names place name)
        else
          name := by
  simp [renumber]

/-! ## Places of a name -/

theorem eq_append_of_getElem?
    {names : List String} {place : Nat} {name : String}
    (found : names[place]? = some name) :
    names = names.take place ++ name :: names.drop (place + 1) := by
  obtain ⟨inside, rfl⟩ := List.getElem?_eq_some_iff.mp found
  rw [List.getElem_cons_drop, List.take_append_drop]

/-- The name at a place occurs less often before the place than in all. -/
theorem count_take_lt_count
    {names : List String} {place : Nat} {name : String}
    (found : names[place]? = some name) :
    (names.take place).count name < names.count name := by
  have counted := congrArg (List.count name) (eq_append_of_getElem? found)
  rw [List.count_append, List.count_cons_self] at counted
  omega

/-- A name that occurs once stands at its first place only. -/
theorem place_eq_idxOf
    {names : List String} {place : Nat} {name : String}
    (single : names.count name = 1) (found : names[place]? = some name) :
    place = names.idxOf name := by
  have fewer := count_take_lt_count found
  have absent : name ∉ names.take place := by
    rw [← List.count_eq_zero]
    omega
  obtain ⟨inside, _⟩ := List.getElem?_eq_some_iff.mp found
  rw [eq_append_of_getElem? found, List.idxOf_append_of_notMem absent, List.idxOf_cons_self,
    List.length_take]
  omega

theorem getElem?_idxOf {names : List String} {name : String} (member : name ∈ names) :
    names[names.idxOf name]? = some name := by
  have inside := List.idxOf_lt_length_of_mem member
  rw [List.getElem?_eq_getElem inside, List.getElem_idxOf inside]

/-! ## One more name -/

/-- The occurrences of the names before the last one keep their numbers. -/
theorem occurrence_append
    {seen : List String} {place : Nat} (inside : place ≤ seen.length) (last other : String) :
    occurrence (seen ++ [last]) place other = occurrence seen place other := by
  rw [occurrence, occurrence, List.take_append_of_le_length inside]

/-- One more name changes which names are repeated, and adds its own occurrence at the end. -/
theorem renumber_append (seen : List String) (name : String) :
    renumber (seen ++ [name]) =
      (seen.mapIdx fun place other =>
        if 1 < (seen ++ [name]).count other then
          Pass.numbered other (occurrence seen place other)
        else
          other) ++
        [if name ∈ seen then Pass.numbered name (seen.count name + 1) else name] := by
  rw [renumber, List.mapIdx_concat]
  congr 1
  · rw [List.mapIdx_eq_mapIdx_iff]
    intro place inside
    rw [occurrence_append inside.le]
  · have repeated : 1 < (seen ++ [name]).count name ↔ name ∈ seen := by
      simp [List.count_append, ← List.count_pos_iff]
    simp only [repeated, occurrence, List.take_left]

theorem renumber_append_new
    {seen : List String} {name : String} (absent : name ∉ seen) :
    renumber (seen ++ [name]) = renumber seen ++ [name] := by
  rw [renumber_append, if_neg absent, renumber]
  congr 1
  rw [List.mapIdx_eq_mapIdx_iff]
  intro place inside
  have different : name ≠ seen[place] := by
    intro equal
    exact absent (equal ▸ List.getElem_mem inside)
  simp [List.count_append, different]

theorem renumber_append_second
    {seen : List String} {name : String} (single : seen.count name = 1) :
    renumber (seen ++ [name]) =
      (renumber seen).modify (seen.idxOf name) (fun first => Pass.numbered first 1) ++
        [Pass.numbered name 2] := by
  have member : name ∈ seen := List.count_pos_iff.mp (by omega)
  rw [renumber_append, if_pos member, single]
  congr 1
  apply List.ext_getElem?
  intro place
  rw [List.getElem?_modify, getElem?_renumber, List.getElem?_mapIdx]
  rcases found : seen[place]? with _ | other
  · rfl
  · by_cases same : other = name
    · subst same
      have first : place = seen.idxOf other := place_eq_idxOf single found
      have fewer := count_take_lt_count found
      have none_before : (seen.take place).count other = 0 := by omega
      simp [List.count_append, occurrence, single, none_before, ← first]
    · have elsewhere : seen.idxOf name ≠ place := by
        intro equal
        rw [← equal, getElem?_idxOf member] at found
        exact same (Option.some.inj found).symm
      simp [List.count_append, elsewhere, Ne.symm same]

theorem renumber_append_later
    {seen : List String} {name : String} (repeated : 1 < seen.count name) :
    renumber (seen ++ [name]) =
      renumber seen ++ [Pass.numbered name (seen.count name + 1)] := by
  have member : name ∈ seen := List.count_pos_iff.mp (by omega)
  rw [renumber_append, if_pos member, renumber]
  congr 1
  rw [List.mapIdx_eq_mapIdx_iff]
  intro place inside
  by_cases same : name = seen[place]
  · have still : 1 < (seen ++ [name]).count seen[place] := by
      rw [← same, List.count_append]
      omega
    rw [if_pos still, if_pos (same ▸ repeated)]
  · simp [List.count_append, same]

/-! ## Names that occur once -/

/-- The names that occur exactly once. -/
def loneNames (names : List String) : Finset String :=
  names.toFinset.filter fun name => names.count name = 1

theorem mem_loneNames {names : List String} {name : String} :
    name ∈ loneNames names ↔ names.count name = 1 := by
  rw [loneNames, Finset.mem_filter, List.mem_toFinset, ← List.count_pos_iff]
  omega

theorem loneNames_append_new
    {seen : List String} {name : String} (absent : name ∉ seen) :
    loneNames (seen ++ [name]) = insert name (loneNames seen) := by
  have unseen : seen.count name = 0 := List.count_eq_zero.mpr absent
  ext other
  rw [Finset.mem_insert, mem_loneNames, mem_loneNames, List.count_append]
  by_cases same : other = name
  · simp [same, unseen]
  · simp [same, Ne.symm same]

theorem loneNames_append_second
    {seen : List String} {name : String} (single : seen.count name = 1) :
    loneNames (seen ++ [name]) = (loneNames seen).erase name := by
  ext other
  rw [Finset.mem_erase, mem_loneNames, mem_loneNames, List.count_append]
  by_cases same : other = name
  · simp [same, single]
  · simp [same, Ne.symm same]

theorem loneNames_append_later
    {seen : List String} {name : String} (repeated : 1 < seen.count name) :
    loneNames (seen ++ [name]) = loneNames seen := by
  ext other
  rw [mem_loneNames, mem_loneNames, List.count_append]
  by_cases same : other = name
  · subst same
    simp only [List.count_singleton_self]
    omega
  · simp [Ne.symm same]

/-- There are as many lone names as names exactly when no name is repeated. -/
theorem card_loneNames_eq_length_iff (names : List String) :
    (loneNames names).card = names.length ↔ names.Nodup := by
  constructor
  · intro full
    have inside : (loneNames names).card ≤ names.toFinset.card :=
      Finset.card_le_card (Finset.filter_subset _ _)
    have within : names.toFinset.card ≤ names.length := List.toFinset_card_le names
    have every : (names : Multiset String).toFinset.card = (names : Multiset String).card := by
      simp only [Multiset.coe_card, List.toFinset_coe]
      omega
    exact Multiset.toFinset_card_eq_card_iff_nodup.mp every
  · intro distinct
    have every : loneNames names = names.toFinset := by
      rw [loneNames, Finset.filter_true_of_mem]
      intro name member
      exact List.count_eq_one_of_mem distinct (List.mem_toFinset.mp member)
    rw [every, List.toFinset_card_of_nodup distinct]

/-! ## The invariant of a pass -/

namespace Pass

/-- What the state of a pass says about the names it has read. -/
structure Reads (pass : Pass) (seen : List String) : Prop where
  written : pass.written.toList = renumber seen
  tallies :
    ∀ name,
      Entries.find? name pass.tallies =
        if name ∈ seen then some ⟨seen.idxOf name, seen.count name⟩ else none
  lone : pass.lone = (loneNames seen).card

theorem reads_start : Reads start [] where
  written := rfl
  tallies := by
    intro name
    simp [start]
  lone := rfl

/-- A pass that has tallied the last name has tallied the names before it as before. -/
theorem find?_tallies_append
    {pass : Pass} {seen : List String} (reads : Reads pass seen)
    {name : String} {tally : Tally}
    (tallied : tally = ⟨(seen ++ [name]).idxOf name, (seen ++ [name]).count name⟩)
    (other : String) :
    Entries.find? other (Entries.store name tally pass.tallies) =
      if other ∈ seen ++ [name] then
        some ⟨(seen ++ [name]).idxOf other, (seen ++ [name]).count other⟩
      else
        none := by
  rw [Entries.find?_store]
  by_cases same : name = other
  · subst same
    simp [tallied]
  · rw [if_neg same, reads.tallies other]
    by_cases member : other ∈ seen
    · simp [member, List.idxOf_append_of_mem member, List.count_append, same]
    · simp [member, Ne.symm same]

/-- A visit preserves the invariant. -/
theorem Reads.visit {pass : Pass} {seen : List String}
    (reads : Reads pass seen) (name : String) :
    Reads (pass.visit name) (seen ++ [name]) := by
  -- A new name is written as it is, a second occurrence also changes the first one, and every
  -- later occurrence is numbered by itself.
  by_cases member : name ∈ seen
  · have found := reads.tallies name
    rw [if_pos member] at found
    have positive : 0 < seen.count name := List.count_pos_iff.mpr member
    have tallied :
        (⟨seen.idxOf name, seen.count name + 1⟩ : Tally) =
          ⟨(seen ++ [name]).idxOf name, (seen ++ [name]).count name⟩ := by
      rw [List.idxOf_append_of_mem member, List.count_append, List.count_singleton_self]
    by_cases single : seen.count name = 1
    · have lone : name ∈ loneNames seen := mem_loneNames.mpr single
      simp only [Pass.visit, found, single, if_true]
      refine ⟨?_, ?_, ?_⟩
      · rw [renumber_append_second single, Array.toList_push, Array.toList_modify, reads.written]
      · exact find?_tallies_append reads (single ▸ tallied)
      · rw [loneNames_append_second single, Finset.card_erase_of_mem lone, reads.lone]
    · have repeated : 1 < seen.count name := by omega
      simp only [Pass.visit, found, single, if_false]
      refine ⟨?_, ?_, ?_⟩
      · rw [renumber_append_later repeated, Array.toList_push, reads.written]
      · exact find?_tallies_append reads tallied
      · rw [loneNames_append_later repeated, reads.lone]
  · have absent := reads.tallies name
    rw [if_neg member] at absent
    have place : pass.written.size = seen.length := by
      rw [← Array.length_toList, reads.written, length_renumber]
    have tallied :
        (⟨pass.written.size, 1⟩ : Tally) =
          ⟨(seen ++ [name]).idxOf name, (seen ++ [name]).count name⟩ := by
      rw [place, List.idxOf_append_of_notMem member, List.count_append,
        List.count_eq_zero.mpr member, List.count_singleton_self, List.idxOf_cons_self]
      rfl
    have fresh : name ∉ loneNames seen := by
      rw [mem_loneNames, List.count_eq_zero.mpr member]
      decide
    simp only [Pass.visit, absent]
    refine ⟨?_, ?_, ?_⟩
    · rw [renumber_append_new member, Array.toList_push, reads.written]
    · exact find?_tallies_append reads tallied
    · rw [loneNames_append_new member, Finset.card_insert_of_notMem fresh, reads.lone]

theorem Reads.foldl_visit (names : List String) {pass : Pass} {seen : List String}
    (reads : Reads pass seen) :
    Reads (names.foldl Pass.visit pass) (seen ++ names) := by
  induction names generalizing pass seen with
  | nil => simpa using reads
  | cons name names ih => simpa using ih (reads.visit name)

/-- The invariant holds after a whole pass. -/
theorem reads_run (names : List String) : Reads (run names) names :=
  reads_start.foldl_visit names

/-- A pass meets no name twice exactly when the names are distinct. -/
theorem lone_run_eq_length_iff (names : List String) :
    (run names).lone = names.length ↔ names.Nodup := by
  rw [(reads_run names).lone, card_loneNames_eq_length_iff]

end Pass

/-! ## Repeated passes -/

@[simp]
theorem length_iterate_renumber (round : Nat) (names : List String) :
    (renumber^[round] names).length = names.length := by
  induction round generalizing names with
  | zero => rfl
  | succ round ih => rw [Function.iterate_succ_apply, ih, length_renumber]

/-- Distinct names are left as they are. -/
theorem renumber_of_nodup {names : List String} (distinct : names.Nodup) :
    renumber names = names := by
  apply List.ext_getElem?
  intro place
  rw [getElem?_renumber]
  rcases found : names[place]? with _ | name
  · rfl
  · have single := List.nodup_iff_count_le_one.mp distinct name
    simp [Nat.not_lt.mpr single]

theorem number_succ (passes : Nat) (names : List String) :
    number (passes + 1) names =
      if names.Nodup then .distinct names else number passes (renumber names) := by
  rw [number, (Pass.reads_run names).written]
  simp only [Pass.lone_run_eq_length_iff]
  split
  · next distinct => rw [renumber_of_nodup distinct]
  · rfl

/-- Names are made distinct by passes exactly when one of the first iterates is distinct. -/
theorem number_eq_distinct_iff (passes : Nat) (names result : List String) :
    number passes names = .distinct result ↔
      ∃ round < passes,
        result = renumber^[round] names ∧ result.Nodup ∧
          ∀ earlier < round, ¬ (renumber^[earlier] names).Nodup := by
  induction passes generalizing names with
  | zero => simp [number]
  | succ passes ih =>
      rw [number_succ]
      by_cases distinct : names.Nodup
      · rw [if_pos distinct, Numbering.distinct.injEq]
        constructor
        · intro same
          subst same
          exact ⟨0, by omega, rfl, distinct, by omega⟩
        · rintro ⟨round, -, same, -, first⟩
          cases round with
          | zero => exact same.symm
          | succ round => exact absurd distinct (first 0 (by omega))
      · rw [if_neg distinct, ih]
        constructor
        · rintro ⟨round, inside, same, result_distinct, first⟩
          refine ⟨round + 1, by omega, same, result_distinct, ?_⟩
          intro earlier before
          cases earlier with
          | zero => exact distinct
          | succ earlier => exact first earlier (by omega)
        · rintro ⟨round, inside, same, result_distinct, first⟩
          cases round with
          | zero =>
              subst same
              exact absurd result_distinct distinct
          | succ round =>
              refine ⟨round, by omega, same, result_distinct, ?_⟩
              intro earlier before
              exact first (earlier + 1) (by omega)

/-- A result within a limit is the first distinct iterate, cut into groups. -/
theorem distinctWithin_eq_ok_iff {limit : Int} {groups result : List (List String)} :
    distinctWithin limit groups = .ok result ↔
      ∃ round < limit.toNat,
        result = regroup groups (renumber^[round] groups.flatten) ∧
          (renumber^[round] groups.flatten).Nodup ∧
          ∀ earlier < round, ¬ (renumber^[earlier] groups.flatten).Nodup := by
  rw [distinctWithin]
  constructor
  · intro succeeds
    split at succeeds
    · next names numbered =>
        cases succeeds
        obtain ⟨round, inside, rfl, distinct, first⟩ := (number_eq_distinct_iff _ _ _).mp numbered
        exact ⟨round, inside, rfl, distinct, first⟩
    · cases succeeds
  · rintro ⟨round, inside, rfl, distinct, first⟩
    rw [(number_eq_distinct_iff _ _ _).mpr ⟨round, inside, rfl, distinct, first⟩]

end FuncAdapter.Naming
