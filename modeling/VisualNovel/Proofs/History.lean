import VisualNovel.History

/-!
# What a log keeps

A log keeps the newest lines of everything that was added to it, up to its limit.
-/

namespace VisualNovel.History

variable {history : History}

/-- The newest lines, up to a limit. -/
def newest (limit : Nat) (lines : List HistoryEntry) : List HistoryEntry :=
  lines.drop (lines.length - limit)

/-- The limit holds and leaves room for a line. -/
structure Bounded (history : History) : Prop where
  positive : 0 < history.limit
  within : history.entries.length ≤ history.limit

theorem newest_of_le {limit : Nat} {lines : List HistoryEntry} (few : lines.length ≤ limit) :
    newest limit lines = lines := by
  simp only [newest]
  rw [Nat.sub_eq_zero_of_le few, List.drop_zero]

theorem length_newest_le (limit : Nat) (lines : List HistoryEntry) :
    (newest limit lines).length ≤ limit := by
  simp only [newest]
  rw [List.length_drop]
  omega

/-- Only the newest lines count when others follow. -/
theorem newest_append (limit : Nat) (old new : List HistoryEntry) :
    newest limit (newest limit old ++ new) = newest limit (old ++ new) := by
  simp only [newest]
  by_cases few : old.length ≤ limit
  · rw [Nat.sub_eq_zero_of_le few, List.drop_zero]
  · have split : old.drop (old.length - limit) ++ new = (old ++ new).drop (old.length - limit) := by
      rw [List.drop_append_of_le_length (Nat.sub_le ..)]
    rw [split, List.drop_drop]
    congr 1
    simp only [List.length_drop, List.length_append]
    omega

theorem new_bounded (limit : Nat) : (new limit).Bounded :=
  ⟨by simp only [new]; omega, Nat.zero_le _⟩

theorem Bounded.push_entries (bounded : history.Bounded) (line : HistoryEntry) :
    (history.push line).entries = newest history.limit (history.entries ++ [line]) := by
  have within := bounded.within
  have positive := bounded.positive
  simp only [push, newest]
  rw [List.length_append]
  split
  · rename_i full
    rw [full, List.drop_append_of_le_length (by simp only [List.length_singleton]; omega)]
    simp
  · rename_i free
    have few : history.entries.length + [line].length - history.limit = 0 := by
      simp only [List.length_singleton]
      omega
    rw [few, List.drop_zero]

theorem Bounded.push (bounded : history.Bounded) (line : HistoryEntry) :
    (history.push line).Bounded := by
  constructor
  · exact bounded.positive
  · rw [bounded.push_entries]
    exact length_newest_le ..

theorem Bounded.foldl_push (bounded : history.Bounded) (lines : List HistoryEntry) :
    (lines.foldl History.push history).Bounded ∧
      (lines.foldl History.push history).limit = history.limit ∧
      (lines.foldl History.push history).entries =
        newest history.limit (history.entries ++ lines) := by
  induction lines generalizing history with
  | nil => exact ⟨bounded, rfl, by rw [List.append_nil, newest_of_le bounded.within]; rfl⟩
  | cons line lines ih =>
      obtain ⟨kept, limit, entries⟩ := ih (bounded.push line)
      refine ⟨kept, limit, entries.trans ?_⟩
      rw [bounded.push_entries, limit_push, newest_append, List.append_assoc, List.singleton_append]

theorem Bounded.clear (bounded : history.Bounded) : history.clear.Bounded :=
  ⟨bounded.positive, Nat.zero_le _⟩

theorem Bounded.replace (bounded : history.Bounded) (lines : List HistoryEntry) :
    (history.replace lines).Bounded :=
  (bounded.clear.foldl_push lines).1

theorem Bounded.replace_limit (bounded : history.Bounded) (lines : List HistoryEntry) :
    (history.replace lines).limit = history.limit :=
  (bounded.clear.foldl_push lines).2.1

/-- A log with other lines holds the newest of them. -/
theorem Bounded.replace_entries (bounded : history.Bounded) (lines : List HistoryEntry) :
    (history.replace lines).entries = newest history.limit lines :=
  (bounded.clear.foldl_push lines).2.2

end VisualNovel.History
