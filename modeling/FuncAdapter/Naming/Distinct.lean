import FuncAdapter.Table
import FuncAdapter.Text.Quoted

/-!
# Distinct names

Names that occur several times are numbered.  One pass reads the names from first to last and counts
how often each has come up: the second occurrence gets the number two and the first one, already
behind, gets the number one; later occurrences get their own number.

A number can produce a name that was there already, so passes repeat until one meets no name twice.
The names come in groups, one per field, and keep their places in them.
-/

namespace FuncAdapter.Naming

/-- What a pass knows about a name that it has met. -/
structure Tally where
  /-- The place of the first occurrence. -/
  firstPlace : Nat
  /-- How often the name has occurred. -/
  count : Nat
  deriving DecidableEq, Repr

/-- The state of a pass. -/
structure Pass where
  /-- The new names of the occurrences so far. -/
  written : Array String
  /-- The names met so far. -/
  tallies : List (String × Tally)
  /-- How many names have occurred exactly once. -/
  lone : Nat
  deriving DecidableEq, Repr

namespace Pass

/-- The state before the first name. -/
def start : Pass := ⟨#[], [], 0⟩

/-- A name with a number. -/
def numbered (name : String) (number : Nat) : String := name ++ number.repr

/-- Read the next name. -/
def visit (pass : Pass) (name : String) : Pass :=
  match Entries.find? name pass.tallies with
  | none =>
      ⟨pass.written.push name, Entries.store name ⟨pass.written.size, 1⟩ pass.tallies,
        pass.lone + 1⟩
  | some tally =>
      let tallies := Entries.store name ⟨tally.firstPlace, tally.count + 1⟩ pass.tallies
      if tally.count = 1 then
        let written := pass.written.modify tally.firstPlace fun first => numbered first 1
        ⟨written.push (numbered name 2), tallies, pass.lone - 1⟩
      else
        ⟨pass.written.push (numbered name (tally.count + 1)), tallies, pass.lone⟩

/-- Read all names. -/
def run (names : List String) : Pass :=
  names.foldl visit start

end Pass

/-- Cut a list into groups as long as the given ones; too short a list gives short groups. -/
def regroup : List (List String) → List String → List (List String)
  | [], _ => []
  | group :: groups, names =>
      names.take group.length :: regroup groups (names.drop group.length)

/-- Groups keep their sizes when there is a name for every place. -/
theorem map_length_regroup
    (groups : List (List String)) (names : List String)
    (enough : names.length = groups.flatten.length) :
    (regroup groups names).map List.length = groups.map List.length := by
  induction groups generalizing names with
  | nil => rfl
  | cons group groups ih =>
      rw [List.flatten_cons, List.length_append] at enough
      have rest : (names.drop group.length).length = groups.flatten.length := by
        rw [List.length_drop]
        omega
      have front : (names.take group.length).length = group.length := by
        rw [List.length_take]
        omega
      rw [regroup, List.map_cons, List.map_cons, front, ih _ rest]

/-- The groups hold the names in order when there is a name for every place. -/
theorem flatten_regroup
    (groups : List (List String)) (names : List String)
    (enough : names.length = groups.flatten.length) :
    (regroup groups names).flatten = names := by
  induction groups generalizing names with
  | nil =>
      rw [List.flatten_nil, List.length_nil, List.length_eq_zero_iff] at enough
      rw [enough, regroup, List.flatten_nil]
  | cons group groups ih =>
      rw [List.flatten_cons, List.length_append] at enough
      have rest : (names.drop group.length).length = groups.flatten.length := by
        rw [List.length_drop]
        omega
      rw [regroup, List.flatten_cons, ih _ rest, List.take_append_drop]

/-- The outcome of a limited number of passes. -/
inductive Numbering where
  /-- The names are distinct. -/
  | distinct (names : List String)
  /-- The names after the last pass, which still met a name twice. -/
  | unfinished (names : List String)
  deriving DecidableEq, Repr

/-- Repeat passes until one meets no name twice, at most the given number of times. -/
def number : Nat → List String → Numbering
  | 0, names => .unfinished names
  | passes + 1, names =>
      let pass := Pass.run names
      if pass.lone = names.length then
        .distinct pass.written.toList
      else
        number passes pass.written.toList

/-- Names that are not distinct after the allowed passes. -/
structure NotDistinct where
  limit : Int
  groups : List (List String)
  deriving DecidableEq, Repr

/-- The words for names that are not distinct after the allowed passes. -/
def NotDistinct.message (failure : NotDistinct) : String :=
  "parameter names did not converge after " ++ failure.limit.repr ++ " passes: [" ++
    Text.join ", " (failure.groups.map Text.quotedList) ++ "]"

/-- How many passes are allowed for a number of names when no limit is given. -/
def defaultLimit (count : Nat) : Int := 4 * (count + 1)

/-- Make the names of all groups distinct within a limit of passes; a negative limit allows none. -/
def distinctWithin (limit : Int) (groups : List (List String)) :
    Except NotDistinct (List (List String)) :=
  match number limit.toNat groups.flatten with
  | .distinct names => .ok (regroup groups names)
  | .unfinished names => .error ⟨limit, regroup groups names⟩

/-- Make the names of all groups distinct. -/
def distinctNames (groups : List (List String)) : Except NotDistinct (List (List String)) :=
  distinctWithin (defaultLimit groups.flatten.length) groups

end FuncAdapter.Naming
