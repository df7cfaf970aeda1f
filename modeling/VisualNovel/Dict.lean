/-!
# Dictionaries with text keys

A dictionary is a list of entries in ascending order of their keys, at most one entry a key. The
order of keys is the order of code points. `get?_insert` and `get?_erase` say how the operations
act on look-ups.
-/

namespace VisualNovel

/-- Entries in ascending order of their keys. -/
abbrev Dict (α : Type) := List (String × α)

namespace Dict

variable {α β : Type}

/-- The value stored under the key. -/
def get? : Dict α → String → Option α
  | [], _ => none
  | (key, value) :: rest, wanted => if key = wanted then some value else get? rest wanted

/-- Stores a value under the key and keeps the order. -/
def insert (key : String) (value : α) : Dict α → Dict α
  | [] => [(key, value)]
  | (other, kept) :: rest =>
    if key = other then (key, value) :: rest
    else if key < other then (key, value) :: (other, kept) :: rest
    else (other, kept) :: insert key value rest

/-- Removes every entry with the key. -/
def erase (key : String) (entries : Dict α) : Dict α :=
  entries.filter fun entry => entry.1 ≠ key

/-- Whether the key has an entry. -/
def contains (entries : Dict α) (key : String) : Bool :=
  (get? entries key).isSome

/-- The keys in ascending order. -/
def keys (entries : Dict α) : List String :=
  entries.map Prod.fst

/-- The values in the order of their keys. -/
def values (entries : Dict α) : List α :=
  entries.map Prod.snd

/-- Adds all entries of `additions`; a later entry replaces an earlier one. -/
def union (entries additions : Dict α) : Dict α :=
  additions.foldl (fun joined entry => insert entry.1 entry.2 joined) entries

/-- The dictionary of a list of pairs in any order; the last value of a key wins. -/
def ofPairs (pairs : List (String × α)) : Dict α :=
  union [] pairs

/-- Applies a function to every value. -/
def mapValues (transform : α → β) (entries : Dict α) : Dict β :=
  entries.map fun entry => (entry.1, transform entry.2)

/-- The keys ascend strictly. -/
def Sorted (entries : Dict α) : Prop :=
  entries.Pairwise fun left right => left.1 < right.1

@[simp] theorem get?_nil (key : String) : get? ([] : Dict α) key = none := rfl

theorem get?_insert (entries : Dict α) (key wanted : String) (value : α) :
    get? (insert key value entries) wanted =
      if key = wanted then some value else get? entries wanted := by
  induction entries with
  | nil => simp [insert, get?]
  | cons entry rest ih =>
    obtain ⟨other, kept⟩ := entry
    simp only [insert]
    split
    · subst_vars
      simp only [get?]
      split <;> rfl
    · split
      · simp [get?]
      · simp only [get?, ih]
        split
        · subst_vars
          rename_i different _
          simp [different]
        · rfl

theorem get?_erase (entries : Dict α) (key wanted : String) :
    get? (erase key entries) wanted = if key = wanted then none else get? entries wanted := by
  induction entries with
  | nil => simp [erase]
  | cons entry rest ih =>
    obtain ⟨other, kept⟩ := entry
    simp only [erase] at ih
    by_cases same : other = key
    · subst same
      by_cases found : other = wanted
      · simp_all [erase]
      · simp_all [erase, get?]
    · by_cases found : other = wanted
      · subst found
        simp [erase, get?, same, Ne.symm same]
      · simp_all [erase, get?]

end Dict

end VisualNovel
