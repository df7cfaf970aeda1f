import Mathlib.Data.List.Nodup
import Mathlib.Data.List.Perm.Basic
import VisualNovel.Saves.Store

/-!
# Slots in order

Slots in ascending order are known by what is in each of them.
-/

namespace VisualNovel.Slots

variable {slots others : Slots} {slot : Nat} {file : SaveFile}

theorem get?_insert (slots : Slots) (slot wanted : Nat) (file : SaveFile) :
    get? (insert slot file slots) wanted =
      if slot = wanted then some file else get? slots wanted := by
  induction slots with
  | nil => simp [insert, get?]
  | cons entry rest ih =>
      obtain ⟨other, kept⟩ := entry
      simp only [insert]
      split
      · subst_vars
        simp only [get?]
        split <;> rfl
      · split
        · simp [get?]
        · simp only [get?, ih]
          split
          · subst_vars
            rename_i different _
            simp [different]
          · rfl

theorem get?_erase (slots : Slots) (slot wanted : Nat) :
    get? (erase slot slots) wanted = if slot = wanted then none else get? slots wanted := by
  induction slots with
  | nil => simp [erase, get?]
  | cons entry rest ih =>
      obtain ⟨other, kept⟩ := entry
      simp only [erase, List.filter_cons, decide_eq_true_eq] at ih ⊢
      by_cases same : other = slot
      · subst same
        rw [if_neg (by simp), ih, get?]
        split <;> rfl
      · rw [if_pos same, get?, ih, get?]
        by_cases found : other = wanted
        · subst found
          simp [Ne.symm same]
        · simp [found]

theorem get?_map (change : SaveFile → SaveFile) (slots : Slots) (wanted : Nat) :
    get? (slots.map fun held => (held.1, change held.2)) wanted =
      (get? slots wanted).map change := by
  induction slots with
  | nil => rfl
  | cons entry rest ih =>
      simp only [List.map_cons, get?, ih]
      split <;> rfl

theorem mem_of_get? (found : get? slots slot = some file) : (slot, file) ∈ slots := by
  induction slots with
  | nil => cases found
  | cons entry rest ih =>
      obtain ⟨other, kept⟩ := entry
      rw [get?] at found
      split at found
      · subst_vars
        cases found
        exact List.mem_cons_self ..
      · exact List.mem_cons_of_mem _ (ih found)

theorem mem_insert {entry : Nat × SaveFile} (member : entry ∈ insert slot file slots) :
    entry = (slot, file) ∨ entry ∈ slots := by
  induction slots with
  | nil => exact .inl (List.mem_singleton.1 member)
  | cons head rest ih =>
      obtain ⟨other, kept⟩ := head
      rw [insert] at member
      split at member
      · exact (List.mem_cons.1 member).imp_right (List.mem_cons_of_mem _)
      · split at member
        · exact List.mem_cons.1 member
        · rcases List.mem_cons.1 member with rfl | later
          · exact .inr (List.mem_cons_self ..)
          · exact (ih later).imp_right (List.mem_cons_of_mem _)

/-! ## Ascending slots -/

/-- Each slot is there at most once, in ascending order. -/
def Ascending (slots : Slots) : Prop :=
  slots.Pairwise fun left right => left.1 < right.1

theorem Ascending.get?_of_mem (ascending : Ascending slots) (member : (slot, file) ∈ slots) :
    get? slots slot = some file := by
  induction slots with
  | nil => cases member
  | cons entry rest ih =>
      obtain ⟨other, kept⟩ := entry
      obtain ⟨below, tail⟩ := List.pairwise_cons.1 ascending
      rcases List.mem_cons.1 member with same | later
      · cases same
        exact if_pos rfl
      · have less : other < slot := below _ later
        rw [get?, if_neg (Nat.ne_of_lt less)]
        exact ih tail later

theorem Ascending.insert (ascending : Ascending slots) (slot : Nat) (file : SaveFile) :
    Ascending (Slots.insert slot file slots) := by
  induction slots with
  | nil => exact List.pairwise_singleton ..
  | cons head rest ih =>
      obtain ⟨other, kept⟩ := head
      obtain ⟨below, tail⟩ := List.pairwise_cons.1 ascending
      rw [Slots.insert]
      split
      · subst_vars
        exact List.pairwise_cons.2 ⟨below, tail⟩
      · rename_i different
        split
        · rename_i less
          refine List.pairwise_cons.2 ⟨fun entry member => ?_, ascending⟩
          rcases List.mem_cons.1 member with rfl | later
          · exact less
          · exact Nat.lt_trans less (below entry later)
        · rename_i not_less
          refine List.pairwise_cons.2 ⟨fun entry member => ?_, ih tail⟩
          rcases mem_insert member with rfl | old
          · exact Nat.lt_of_le_of_ne (Nat.le_of_not_lt not_less) (Ne.symm different)
          · exact below entry old

theorem Ascending.erase (ascending : Ascending slots) (slot : Nat) :
    Ascending (Slots.erase slot slots) :=
  List.Pairwise.filter _ ascending

theorem Ascending.map (ascending : Ascending slots) (change : SaveFile → SaveFile) :
    Ascending (slots.map fun held => (held.1, change held.2)) :=
  List.pairwise_map.2 ascending

theorem Ascending.nodup (ascending : Ascending slots) : slots.Nodup :=
  ascending.imp fun less => by
    rintro rfl
    exact Nat.lt_irrefl _ less

/-- Ascending slots with the same files are the same. -/
theorem Ascending.ext (ascending : Ascending slots) (other : Ascending others)
    (same : ∀ slot, get? slots slot = get? others slot) : slots = others := by
  have alike : slots.Perm others := by
    refine (List.perm_ext_iff_of_nodup ascending.nodup other.nodup).2 fun ⟨slot, file⟩ => ?_
    exact ⟨fun member => mem_of_get? ((same slot).symm.trans (ascending.get?_of_mem member)),
      fun member => mem_of_get? ((same slot).trans (other.get?_of_mem member))⟩
  exact alike.eq_of_pairwise
    (fun left right _ _ less more => absurd less (Nat.lt_asymm more)) ascending other

end VisualNovel.Slots
