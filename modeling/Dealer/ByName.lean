-- Entries under names, kept in the order of their names. Two stores with the
-- same entries are equal, so nothing depends on the order of the writes.

namespace Dealer

/-- Entries in rising order of their names, with one entry to a name. -/
abbrev ByName (α : Type) := List (String × α)

namespace ByName

variable {α β : Type}

/-- The entry under a name. -/
def get? (name : String) : ByName α → Option α
  | [] => none
  | (k, v) :: rest => if k = name then some v else get? name rest

/-- Whether a name has an entry. -/
def has (name : String) (entries : ByName α) : Bool := (entries.get? name).isSome

/-- The names with an entry. -/
def names (entries : ByName α) : List String := entries.map Prod.fst

/-- Writes the entry of a name. An entry that was there is replaced. -/
def put (name : String) (value : α) : ByName α → ByName α
  | [] => [(name, value)]
  | (k, v) :: rest =>
    if name < k then (name, value) :: (k, v) :: rest
    else if name = k then (name, value) :: rest
    else (k, v) :: put name value rest

/-- Writes many entries, in their order. -/
def putAll (entries : ByName α) (news : List (String × α)) : ByName α :=
  news.foldl (fun es e => es.put e.1 e.2) entries

/-- Adds at the end of the list under a name. A name without an entry starts with the empty
list. -/
def append (name : String) (more : List β) (entries : ByName (List β)) : ByName (List β) :=
  entries.put name ((entries.get? name).getD [] ++ more)

/-! ## What a write does to the entries -/

theorem get?_put_self (name : String) (value : α) (entries : ByName α) :
    (entries.put name value).get? name = some value := by
  induction entries with
  | nil => simp [put, get?]
  | cons e rest ih =>
    obtain ⟨k, v⟩ := e
    simp only [put]
    split
    · simp [get?]
    · split
      · simp [get?]
      · rename_i hne
        simp [get?, ih, Ne.symm hne]

theorem get?_put_of_ne {name other : String} (h : other ≠ name) (value : α) (entries : ByName α) :
    (entries.put name value).get? other = entries.get? other := by
  induction entries with
  | nil => simp [put, get?, Ne.symm h]
  | cons e rest ih =>
    obtain ⟨k, v⟩ := e
    simp only [put]
    split
    · simp [get?, Ne.symm h]
    · split
      · rename_i hk
        subst hk
        simp [get?, Ne.symm h]
      · simp [get?, ih]

/-- A write changes what stands under its name and nothing else. -/
theorem get?_put (name other : String) (value : α) (entries : ByName α) :
    (entries.put name value).get? other =
      if other = name then some value else entries.get? other := by
  split
  · rename_i h
    rw [h, get?_put_self]
  · rename_i h
    exact get?_put_of_ne h value entries

end ByName
end Dealer
