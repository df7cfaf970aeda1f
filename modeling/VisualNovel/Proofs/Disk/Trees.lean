import VisualNovel.Disk
import VisualNovel.Proofs.Dict

/-!
# Trees of directories

Putting a node into a directory, or taking one away, changes one entry of one directory. As long as
the node in its place was no directory, every directory of the tree stays one.
-/

namespace VisualNovel

namespace DiskNode

variable {node tree changed : DiskNode} {entries : Dict DiskNode} {name : String}
variable {location : List String}

/-- Every directory of the one tree is a directory of the other. -/
def Keeps (tree changed : DiskNode) : Prop :=
  ∀ location entries, find? location tree = some (.directory entries) →
    ∃ others, find? location changed = some (.directory others)

theorem Keeps.refl (tree : DiskNode) : Keeps tree tree :=
  fun _ entries found => ⟨entries, found⟩

theorem Keeps.trans {between : DiskNode} (first : Keeps tree between)
    (second : Keeps between changed) : Keeps tree changed := by
  intro location entries found
  obtain ⟨others, found⟩ := first location entries found
  exact second location others found

/-- A subtree may be exchanged for one that keeps its directories. -/
theorem Keeps.insert {child other : DiskNode} (selected : Dict.get? entries name = some child)
    (keeps : Keeps child other) :
    Keeps (.directory entries) (.directory (Dict.insert name other entries)) := by
  intro location held found
  cases location with
  | nil => exact ⟨_, rfl⟩
  | cons first location =>
      obtain ⟨next, chosen, found⟩ := Option.bind_eq_some_iff.1 found
      simp only [find?, Dict.get?_insert]
      split
      · rename_i same
        rw [← same, selected] at chosen
        cases chosen
        exact keeps location held found
      · exact ⟨held, by rw [chosen]; exact found⟩

theorem find?_directory_of_cons {first : String} {held : Dict DiskNode}
    (found : find? (first :: location) tree = some (.directory held)) :
    ∃ entries, tree = .directory entries := by
  cases tree with
  | file content => cases found
  | directory entries => exact ⟨entries, rfl⟩

theorem put?_cons {route : List String} (further : route ≠ []) (first : String)
    (entries : Dict DiskNode) :
    put? node (first :: route) (.directory entries) =
      (Dict.get? entries first).bind fun child =>
        (put? node route child).map fun changed => .directory (Dict.insert first changed entries) := by
  cases route with
  | nil => exact absurd rfl further
  | cons next route =>
      simp only [put?, Option.bind_eq_bind]
      cases Dict.get? entries first with
      | none => rfl
      | some child =>
          simp only [Option.bind_some]
          cases put? node (next :: route) child <;> rfl

theorem remove?_cons {route : List String} (further : route ≠ []) (first : String)
    (entries : Dict DiskNode) :
    remove? (first :: route) (.directory entries) =
      (Dict.get? entries first).bind fun child =>
        (remove? route child).map fun changed => .directory (Dict.insert first changed entries) := by
  cases route with
  | nil => exact absurd rfl further
  | cons next route =>
      simp only [remove?, Option.bind_eq_bind]
      cases Dict.get? entries first with
      | none => rfl
      | some child =>
          simp only [Option.bind_some]
          cases remove? (next :: route) child <;> rfl

/-- A node can be put into every directory. -/
theorem put?_of_find? (found : find? location tree = some (.directory entries)) (node : DiskNode)
    (name : String) : ∃ changed, put? node (location ++ [name]) tree = some changed := by
  induction location generalizing tree with
  | nil =>
      cases found
      exact ⟨_, rfl⟩
  | cons first location ih =>
      obtain ⟨held, rfl⟩ := find?_directory_of_cons found
      obtain ⟨child, selected, found⟩ := Option.bind_eq_some_iff.1 found
      obtain ⟨other, put⟩ := ih found
      exact ⟨_, by rw [List.cons_append, put?_cons (by simp), selected, Option.bind_some, put]; rfl⟩

/-- An entry can be taken away from its directory. -/
theorem remove?_of_find? (found : find? location tree = some (.directory entries))
    (stored : Dict.get? entries name = some node) :
    ∃ changed, remove? (location ++ [name]) tree = some changed := by
  induction location generalizing tree with
  | nil =>
      cases found
      exact ⟨_, by simp only [List.nil_append, remove?, Dict.contains, stored]; rfl⟩
  | cons first location ih =>
      obtain ⟨held, rfl⟩ := find?_directory_of_cons found
      obtain ⟨child, selected, found⟩ := Option.bind_eq_some_iff.1 found
      obtain ⟨other, removed⟩ := ih found
      exact ⟨_, by
        rw [List.cons_append, remove?_cons (by simp), selected, Option.bind_some, removed]
        rfl⟩

/-- A node that is put is an entry of the directory in front of it. -/
theorem find?_put? (found : find? location tree = some (.directory entries))
    (put : put? node (location ++ [name]) tree = some changed) :
    find? location changed = some (.directory (Dict.insert name node entries)) := by
  induction location generalizing tree changed with
  | nil =>
      cases found
      cases put
      rfl
  | cons first location ih =>
      obtain ⟨held, rfl⟩ := find?_directory_of_cons found
      obtain ⟨child, selected, found⟩ := Option.bind_eq_some_iff.1 found
      rw [List.cons_append, put?_cons (by simp), selected, Option.bind_some] at put
      obtain ⟨other, inner, rfl⟩ := Option.map_eq_some_iff.1 put
      simp only [find?, Dict.get?_insert, if_true, Option.bind_some]
      exact ih found inner

/-- A node that is taken away is no entry of the directory in front of it. -/
theorem find?_remove? (found : find? location tree = some (.directory entries))
    (removed : remove? (location ++ [name]) tree = some changed) :
    find? location changed = some (.directory (Dict.erase name entries)) := by
  induction location generalizing tree changed with
  | nil =>
      cases found
      simp only [List.nil_append, remove?] at removed
      split at removed
      · cases removed
        rfl
      · cases removed
  | cons first location ih =>
      obtain ⟨held, rfl⟩ := find?_directory_of_cons found
      obtain ⟨child, selected, found⟩ := Option.bind_eq_some_iff.1 found
      rw [List.cons_append, remove?_cons (by simp), selected, Option.bind_some] at removed
      obtain ⟨other, inner, rfl⟩ := Option.map_eq_some_iff.1 removed
      simp only [find?, Dict.get?_insert, if_true, Option.bind_some]
      exact ih found inner

theorem find?_append (location route : List String) (tree : DiskNode) :
    find? (location ++ route) tree = (find? location tree).bind (find? route) := by
  induction location generalizing tree with
  | nil => rfl
  | cons first location ih =>
      cases tree with
      | file content => rfl
      | directory entries =>
          simp only [List.cons_append, find?]
          cases Dict.get? entries first with
          | none => rfl
          | some child => exact ih child

/-- An entry that is no directory may be exchanged without a loss of directories. -/
theorem Keeps.entry {others : Dict DiskNode}
    (free : ∀ held, Dict.get? entries name ≠ some (.directory held))
    (same : ∀ key, name ≠ key → Dict.get? others key = Dict.get? entries key) :
    Keeps (.directory entries) (.directory others) := by
  intro location held found
  cases location with
  | nil => exact ⟨others, rfl⟩
  | cons first location =>
      obtain ⟨child, selected, inner⟩ := Option.bind_eq_some_iff.1 found
      by_cases other : name = first
      · subst other
        have directory : ∃ entries, child = .directory entries := by
          cases location with
          | nil =>
              cases inner
              exact ⟨held, rfl⟩
          | cons next location => exact find?_directory_of_cons inner
        obtain ⟨entries, rfl⟩ := directory
        exact absurd selected (free entries)
      · refine ⟨held, ?_⟩
        simp only [find?, same first other, selected]
        exact inner

/-- Where no directory stood, a node is put without a loss of directories. -/
theorem put?_keeps (found : find? location tree = some (.directory entries))
    (free : ∀ held, Dict.get? entries name ≠ some (.directory held))
    (put : put? node (location ++ [name]) tree = some changed) : Keeps tree changed := by
  induction location generalizing tree changed with
  | nil =>
      cases found
      cases put
      exact .entry free fun key other => by rw [Dict.get?_insert, if_neg other]
  | cons first location ih =>
      obtain ⟨held, rfl⟩ := find?_directory_of_cons found
      obtain ⟨child, selected, found⟩ := Option.bind_eq_some_iff.1 found
      rw [List.cons_append, put?_cons (by simp), selected, Option.bind_some] at put
      obtain ⟨other, inner, rfl⟩ := Option.map_eq_some_iff.1 put
      exact .insert selected (ih found inner)

/-- A node that is no directory is taken away without a loss of directories. -/
theorem remove?_keeps (found : find? location tree = some (.directory entries))
    (free : ∀ held, Dict.get? entries name ≠ some (.directory held))
    (removed : remove? (location ++ [name]) tree = some changed) : Keeps tree changed := by
  induction location generalizing tree changed with
  | nil =>
      cases found
      simp only [List.nil_append, remove?] at removed
      split at removed
      · cases removed
        exact .entry free fun key other => by rw [Dict.get?_erase, if_neg other]
      · cases removed
  | cons first location ih =>
      obtain ⟨held, rfl⟩ := find?_directory_of_cons found
      obtain ⟨child, selected, found⟩ := Option.bind_eq_some_iff.1 found
      rw [List.cons_append, remove?_cons (by simp), selected, Option.bind_some] at removed
      obtain ⟨other, inner, rfl⟩ := Option.map_eq_some_iff.1 removed
      exact .insert selected (ih found inner)

end DiskNode

end VisualNovel
