/-!
# Ordered entries

A map that remembers the order in which its keys first arrived, kept as the list of its pairs.
Writing to a present key changes the value where it stands; writing to a new one adds a last pair.
The test for "the same key" is a parameter, because dynamic keys compare by value across number
types.
-/

namespace BoundSql

/-- Pairs in order of first arrival of their keys. -/
abbrev Entries (κ ν : Type) := List (κ × ν)

namespace Entries

variable {κ ν : Type}

/-- Store a value: in place when some key is the same, as a new last pair otherwise. -/
def put (same : κ → κ → Bool) (key : κ) (value : ν) : Entries κ ν → Entries κ ν
  | [] => [(key, value)]
  | (k, v) :: rest => if same k key then (k, value) :: rest else (k, v) :: put same key value rest

/-- The value stored under a key. -/
def find? (same : κ → κ → Bool) (key : κ) : Entries κ ν → Option ν
  | [] => none
  | (k, v) :: rest => if same k key then some v else find? same key rest

/-- Whether some key is the same as the given one. -/
def has (same : κ → κ → Bool) (key : κ) (entries : Entries κ ν) : Bool :=
  entries.any fun entry => same entry.1 key

/-- The map written by a list of pairs: a repeated key keeps its first place and its last value. -/
def ofPairs (same : κ → κ → Bool) (pairs : List (κ × ν)) : Entries κ ν :=
  pairs.foldl (fun entries pair => put same pair.1 pair.2 entries) []

/-- The keys in order of first arrival. -/
def keys (entries : Entries κ ν) : List κ := entries.map Prod.fst

/-- The values in key order. -/
def values (entries : Entries κ ν) : List ν := entries.map Prod.snd

/-- What is found stands in the list. -/
theorem mem_of_find? {same : κ → κ → Bool} {key : κ} {value : ν} {entries : Entries κ ν}
    (h : find? same key entries = some value) : ∃ k, (k, value) ∈ entries := by
  induction entries with
  | nil => cases h
  | cons entry rest ih =>
    obtain ⟨k, v⟩ := entry
    rw [find?] at h
    split at h
    · cases h
      exact ⟨k, List.mem_cons_self⟩
    · obtain ⟨k', hm⟩ := ih h
      exact ⟨k', List.mem_cons_of_mem _ hm⟩

/-- Writing brings no value into the list but the one that is written. -/
theorem mem_put {same : κ → κ → Bool} {key : κ} {value : ν} {entries : Entries κ ν}
    {entry : κ × ν} (h : entry ∈ put same key value entries) :
    entry ∈ entries ∨ entry.2 = value := by
  induction entries with
  | nil =>
    rw [List.mem_singleton.mp h]
    exact .inr rfl
  | cons first rest ih =>
    rw [put] at h
    split at h
    · rcases List.mem_cons.mp h with rfl | hm
      · exact .inr rfl
      · exact .inl (List.mem_cons_of_mem _ hm)
    · rcases List.mem_cons.mp h with rfl | hm
      · exact .inl List.mem_cons_self
      · rcases ih hm with hm | hvalue
        · exact .inl (List.mem_cons_of_mem _ hm)
        · exact .inr hvalue

/-- Writing to an absent key adds one last pair. -/
theorem put_of_absent {same : κ → κ → Bool} {key : κ} {value : ν} {entries : Entries κ ν}
    (h : ∀ entry ∈ entries, same entry.1 key = false) :
    put same key value entries = entries ++ [(key, value)] := by
  induction entries with
  | nil => rfl
  | cons entry rest ih =>
    have he : same entry.1 key = false := h entry (by simp)
    simp [put, he, ih fun e hm => h e (by simp [hm])]

/-- Writing never moves a key. -/
theorem keys_put (same : κ → κ → Bool) (key : κ) (value : ν) (entries : Entries κ ν) :
    keys (put same key value entries) =
      if has same key entries then keys entries else keys entries ++ [key] := by
  induction entries with
  | nil => simp [put, keys, has]
  | cons entry rest ih =>
    simp only [keys, has] at ih
    by_cases h : same entry.1 key
    · simp [put, keys, has, h]
    · by_cases hr : rest.any fun e => same e.1 key <;> simp [put, keys, has, h, hr, ih]

end Entries

end BoundSql
