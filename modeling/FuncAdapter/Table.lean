/-!
# Ordered tables

A table lists entries in the order in which their labels first came up, and every label has one
entry.  Storing a value under a label that is already there replaces the value and keeps the place.

The operations are given on plain lists of entries first.  `Table` packs such a list together with
the fact that its labels are distinct, so that every table of a program has the property.
-/

namespace FuncAdapter

namespace Entries

variable {label : Type u} {value : Type v}

/-- The labels of a list of entries. -/
def labels (entries : List (label × value)) : List label :=
  entries.map Prod.fst

@[simp]
theorem labels_nil : labels ([] : List (label × value)) = [] := rfl

@[simp]
theorem labels_cons (entry : label × value) (entries : List (label × value)) :
    labels (entry :: entries) = entry.1 :: labels entries := rfl

theorem notMem_labels_of_nodup_append {entry : label × value}
    {start rest : List (label × value)} (distinct : (labels (start ++ entry :: rest)).Nodup) :
    entry.1 ∉ labels start := by
  intro present
  rw [labels, List.map_append, List.map_cons] at distinct
  exact (List.nodup_append.mp distinct).2.2 _ present _ List.mem_cons_self rfl

variable [DecidableEq label]

/-- The value stored under a label. -/
def find? (key : label) : List (label × value) → Option value
  | [] => none
  | (other, stored) :: rest => if other = key then some stored else find? key rest

@[simp]
theorem find?_nil (key : label) : find? key ([] : List (label × value)) = none := rfl

/-- Store a value under a label, in place if the label is there and at the end if it is not. -/
def store (key : label) (new : value) : List (label × value) → List (label × value)
  | [] => [(key, new)]
  | (other, stored) :: rest =>
      if other = key then (key, new) :: rest else (other, stored) :: store key new rest

@[simp]
theorem store_nil (key : label) (new : value) : store key new [] = [(key, new)] := rfl

/-- A stored value is found under its label, and every other label keeps what it had. -/
theorem find?_store
    (key other : label) (new : value) (entries : List (label × value)) :
    find? key (store other new entries) =
      if other = key then some new else find? key entries := by
  induction entries with
  | nil => rfl
  | cons entry rest ih =>
      obtain ⟨first, stored⟩ := entry
      by_cases same : first = other
      · subst same
        by_cases wanted : first = key
        · simp [store, find?, wanted]
        · simp [store, find?, wanted]
      · by_cases wanted : first = key
        · subst wanted
          have different : ¬ other = first := fun equal => same equal.symm
          simp [store, find?, same, different]
        · simp [store, find?, same, wanted, ih]

theorem labels_store (key : label) (new : value) (entries : List (label × value)) :
    labels (store key new entries) =
      if key ∈ labels entries then labels entries else labels entries ++ [key] := by
  induction entries with
  | nil => simp
  | cons entry rest ih =>
      obtain ⟨other, stored⟩ := entry
      by_cases same : other = key
      · simp [store, same]
      · have different : ¬ key = other := fun equal => same equal.symm
        simp only [store, same, if_false, labels_cons, ih, List.mem_cons, different, false_or]
        split <;> rfl

/-- A value under a new label goes to the end. -/
theorem store_of_notMem {key : label} {entries : List (label × value)}
    (absent : key ∉ labels entries) (new : value) :
    store key new entries = entries ++ [(key, new)] := by
  induction entries with
  | nil => rfl
  | cons entry rest ih =>
      rw [labels_cons, List.mem_cons, not_or] at absent
      rw [store, if_neg (Ne.symm absent.1), ih absent.2, List.cons_append]

theorem nodup_labels_store
    (key : label) (new : value) (entries : List (label × value))
    (distinct : (labels entries).Nodup) :
    (labels (store key new entries)).Nodup := by
  rw [labels_store]
  split
  · exact distinct
  · next absent =>
      rw [List.nodup_append]
      refine ⟨distinct, by simp, ?_⟩
      intro first inEntries second inSingle equal
      rw [List.mem_singleton] at inSingle
      exact absent (inSingle ▸ equal ▸ inEntries)

/-- Entries stored one after another, so that a later value of a label replaces an earlier one. -/
def collect (entries : List (label × value)) : List (label × value) :=
  entries.foldl (fun collected entry => store entry.1 entry.2 collected) []

theorem nodup_labels_foldl_store
    (entries start : List (label × value))
    (distinct : (labels start).Nodup) :
    (labels
      (entries.foldl (fun collected entry => store entry.1 entry.2 collected) start)).Nodup := by
  induction entries generalizing start with
  | nil => exact distinct
  | cons entry rest ih => exact ih _ (nodup_labels_store entry.1 entry.2 start distinct)

theorem nodup_labels_collect (entries : List (label × value)) :
    (labels (collect entries)).Nodup :=
  nodup_labels_foldl_store entries [] (by simp)

/-- Entries with new labels are stored behind those already there. -/
theorem foldl_store_of_nodup
    {entries start : List (label × value)} (distinct : (labels (start ++ entries)).Nodup) :
    entries.foldl (fun collected entry => store entry.1 entry.2 collected) start =
      start ++ entries := by
  induction entries generalizing start with
  | nil => simp
  | cons entry rest ih =>
      have absent := notMem_labels_of_nodup_append distinct
      rw [List.foldl_cons, store_of_notMem absent, ih (by simpa using distinct)]
      simp

/-- Entries with distinct labels are already collected. -/
theorem collect_of_nodup {entries : List (label × value)} (distinct : (labels entries).Nodup) :
    collect entries = entries := by
  have whole : (labels ([] ++ entries)).Nodup := distinct
  exact foldl_store_of_nodup whole

theorem mem_of_mem_store {key : label} {new : value} {entry : label × value}
    {entries : List (label × value)} (member : entry ∈ store key new entries) :
    entry = (key, new) ∨ entry ∈ entries := by
  induction entries with
  | nil => exact .inl (List.mem_singleton.mp member)
  | cons first rest ih =>
      rw [store] at member
      split at member
      · rcases List.mem_cons.mp member with same | later
        · exact .inl same
        · exact .inr (List.mem_cons_of_mem _ later)
      · rcases List.mem_cons.mp member with same | later
        · exact .inr (List.mem_cons.mpr (.inl same))
        · exact (ih later).imp_right (List.mem_cons_of_mem _)

theorem mem_of_mem_foldl_store {entry : label × value} {entries start : List (label × value)}
    (member :
      entry ∈ entries.foldl (fun collected entry => store entry.1 entry.2 collected) start) :
    entry ∈ start ∨ entry ∈ entries := by
  induction entries generalizing start with
  | nil => exact .inl member
  | cons first rest ih =>
      rcases ih member with stored | later
      · rcases mem_of_mem_store stored with same | earlier
        · exact .inr (List.mem_cons.mpr (.inl same))
        · exact .inl earlier
      · exact .inr (List.mem_cons_of_mem _ later)

/-- Collecting makes up no entries. -/
theorem mem_of_mem_collect {entry : label × value} {entries : List (label × value)}
    (member : entry ∈ collect entries) :
    entry ∈ entries :=
  (mem_of_mem_foldl_store member).resolve_left List.not_mem_nil

end Entries

/-- Entries in a fixed order with distinct labels. -/
structure Table (label : Type u) (value : Type v) where
  entries : List (label × value)
  distinct : (Entries.labels entries).Nodup

namespace Table

variable {label : Type u} {value : Type v}

/-- Two tables with the same entries in the same order are equal. -/
@[ext]
theorem ext {first second : Table label value} (same : first.entries = second.entries) :
    first = second := by
  cases first
  cases second
  cases same
  rfl

/-- The table without entries. -/
def empty : Table label value := ⟨[], by simp⟩

/-- How many labels a table has. -/
def size (table : Table label value) : Nat := table.entries.length

/-- The values of a table in order. -/
def values (table : Table label value) : List value := table.entries.map Prod.snd

variable [DecidableEq label]

/-- The value stored under a label. -/
def find? (table : Table label value) (key : label) : Option value :=
  Entries.find? key table.entries

/-- The table of entries given one after another; a later value of a label replaces an earlier. -/
def ofEntries (entries : List (label × value)) : Table label value :=
  ⟨Entries.collect entries, Entries.nodup_labels_collect entries⟩

/-- The entries of a table make up the table again. -/
@[simp]
theorem ofEntries_entries (table : Table label value) : ofEntries table.entries = table :=
  ext (Entries.collect_of_nodup table.distinct)

end Table

end FuncAdapter
