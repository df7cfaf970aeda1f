import Mathlib.Data.List.Induction
import VisualNovel.Proofs.History

/-!
# A log is a ring

Whatever is done to a log, it holds the newest of the lines that it was given since it was last
emptied, in the order in which they came. The length of a log is compared with its limit before a
line is added, which suffices because no operation leaves it longer than that.
-/

namespace VisualNovel.History

/-- What can be done to a log. -/
inductive Operation where
  | push (line : HistoryEntry)
  | replace (lines : List HistoryEntry)
  | clear

namespace Operation

/-- The log behind an operation. -/
def perform (history : History) : Operation → History
  | push line => history.push line
  | replace lines => history.replace lines
  | clear => history.clear

/-- The log behind operations that are performed one after another. -/
def performAll (history : History) (operations : List Operation) : History :=
  operations.foldl perform history

/-- The operations give a log the lines since it was last emptied, which they do by adding lines
alone, or else by clearing or replacing it and adding lines then. -/
inductive Gives : List Operation → List HistoryEntry → Prop where
  | pushed (lines : List HistoryEntry) : Gives (lines.map push) lines
  | cleared (before : List Operation) (lines : List HistoryEntry) :
      Gives (before ++ clear :: lines.map push) lines
  | replaced (before : List Operation) (first lines : List HistoryEntry) :
      Gives (before ++ replace first :: lines.map push) (first ++ lines)

variable {history : History} {operations : List Operation} {lines : List HistoryEntry}

/-- One more line is given when it is added. -/
theorem Gives.push (gives : Gives operations lines) (line : HistoryEntry) :
    Gives (operations ++ [.push line]) (lines ++ [line]) := by
  cases gives with
  | pushed =>
      have added := pushed (lines ++ [line])
      rwa [List.map_append] at added
  | cleared before =>
      have added := cleared before (lines ++ [line])
      rwa [List.map_append, ← List.cons_append, ← List.append_assoc] at added
  | replaced before first lines =>
      have added := replaced before first (lines ++ [line])
      rwa [List.map_append, ← List.cons_append, ← List.append_assoc, ← List.append_assoc] at added

/-- Whatever is done, some lines are given. -/
theorem exists_gives (operations : List Operation) : ∃ lines, Gives operations lines := by
  induction operations using List.reverseRecOn with
  | nil => exact ⟨[], .pushed []⟩
  | append_singleton operations operation ih =>
      obtain ⟨lines, gives⟩ := ih
      cases operation with
      | push line => exact ⟨lines ++ [line], gives.push line⟩
      | replace first => exact ⟨first ++ [], .replaced operations first []⟩
      | clear => exact ⟨[], .cleared operations []⟩

/-- An operation keeps a log within its limit, which stays. -/
theorem perform_bounded (bounded : history.Bounded) (operation : Operation) :
    (perform history operation).Bounded ∧ (perform history operation).limit = history.limit := by
  cases operation with
  | push line => exact ⟨bounded.push line, rfl⟩
  | replace lines => exact ⟨bounded.replace lines, bounded.replace_limit lines⟩
  | clear => exact ⟨bounded.clear, rfl⟩

theorem performAll_bounded (bounded : history.Bounded) (operations : List Operation) :
    (performAll history operations).Bounded ∧
      (performAll history operations).limit = history.limit := by
  induction operations generalizing history with
  | nil => exact ⟨bounded, rfl⟩
  | cons operation operations ih =>
      obtain ⟨kept, same⟩ := perform_bounded bounded operation
      obtain ⟨still, limit⟩ := ih kept
      exact ⟨still, limit.trans same⟩

theorem performAll_append (history : History) (before after : List Operation) :
    performAll history (before ++ after) = performAll (performAll history before) after :=
  List.foldl_append

theorem performAll_push (history : History) (lines : List HistoryEntry) :
    performAll history (lines.map push) = lines.foldl History.push history :=
  List.foldl_map

/-- A log that is replaced and added to is replaced by all the lines. -/
theorem performAll_replace (history : History) (first lines : List HistoryEntry) :
    performAll history (replace first :: lines.map push) = history.replace (first ++ lines) := by
  have added := performAll_push (history.replace first) lines
  simp only [History.replace] at added ⊢
  rw [List.foldl_append, ← added]
  rfl

/-- A log that is cleared and added to is replaced by the lines. -/
theorem performAll_clear (history : History) (lines : List HistoryEntry) :
    performAll history (clear :: lines.map push) = history.replace lines :=
  performAll_push history.clear lines

/-- The log holds the newest of the lines that it was given. -/
theorem Gives.entries (gives : Gives operations lines) (limit : Nat) :
    (performAll (new limit) operations).entries = newest (max limit 1) lines := by
  have bounded := new_bounded limit
  cases gives with
  | pushed =>
      rw [performAll_push]
      exact (bounded.foldl_push lines).2.2
  | cleared before =>
      obtain ⟨kept, same⟩ := performAll_bounded bounded before
      rw [performAll_append, performAll_clear, kept.replace_entries, same]
      rfl
  | replaced before first lines =>
      obtain ⟨kept, same⟩ := performAll_bounded bounded before
      rw [performAll_append, performAll_replace, kept.replace_entries, same]
      rfl

/-- A log holds exactly the newest of the lines that it was given since it was last emptied, as many
as its limit allows, and a limit of zero counts as one. -/
theorem performAll_newest (limit : Nat) (operations : List Operation) :
    (performAll (new limit) operations).limit = max limit 1 ∧
      (performAll (new limit) operations).entries.length ≤ max limit 1 ∧
      (∃ lines, Gives operations lines) ∧
      ∀ lines, Gives operations lines →
        (performAll (new limit) operations).entries = newest (max limit 1) lines ∧
          (performAll (new limit) operations).entries <:+ lines ∧
          (performAll (new limit) operations).entries.length = min lines.length (max limit 1) := by
  obtain ⟨kept, same⟩ := performAll_bounded (new_bounded limit) operations
  refine ⟨same, Nat.le_trans kept.within (Nat.le_of_eq same), exists_gives operations, ?_⟩
  intro lines gives
  rw [gives.entries limit]
  refine ⟨rfl, List.drop_suffix _ lines, ?_⟩
  simp only [newest, List.length_drop]
  omega

/-- A log with room for two lines holds the last one that replaced its lines and the one added
then. -/
theorem performAll_newest_replaced :
    Gives
        ([.push (.narration "one"), .clear, .push (.narration "two")] ++
          .replace [.narration "three", .titles "four"] ::
            [HistoryEntry.dialogue "Mia" "five"].map push)
        ([.narration "three", .titles "four"] ++ [.dialogue "Mia" "five"]) ∧
      (performAll (new 2) [.push (.narration "one"), .clear, .push (.narration "two"),
          .replace [.narration "three", .titles "four"], .push (.dialogue "Mia" "five")]).entries =
        [.titles "four", .dialogue "Mia" "five"] ∧
      (performAll (new 0) [.push (.narration "one"), .push (.narration "two")]).entries =
        [.narration "two"] := by
  have gives := Gives.replaced [.push (.narration "one"), .clear, .push (.narration "two")]
    [.narration "three", .titles "four"] [.dialogue "Mia" "five"]
  have added := Gives.pushed [.narration "one", .narration "two"]
  exact ⟨gives, ((performAll_newest 2 _).2.2.2 _ gives).1,
    ((performAll_newest 0 _).2.2.2 _ added).1⟩

end Operation

end VisualNovel.History
