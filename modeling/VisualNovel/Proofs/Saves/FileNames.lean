import VisualNovel.Proofs.Disk.Paths
import VisualNovel.Proofs.Json.Numbers
import VisualNovel.Saves.Store

/-!
# Names of save files

The name of a save file can be the name of an entry of a directory, whatever the player is called. The
slot is read back from the name, so files of different slots have different names.
-/

namespace VisualNovel

/-! ## Characters of names -/

/-- The characters of numbers and times in a name. -/
def IsClerical (character : Char) : Prop :=
  character.isDigit = true ∨ character ∈ ['-', '+', '_']

instance (character : Char) : Decidable (IsClerical character) :=
  inferInstanceAs (Decidable (_ ∨ _))

theorem isClerical_digits (number : Nat) :
    ∀ character ∈ Nat.toDigits 10 number, IsClerical character :=
  fun _ member => .inl (Nat.isDigit_of_mem_toDigits (by decide) (by decide) member)

theorem isClerical_append {first second : String}
    (left : ∀ character ∈ first.toList, IsClerical character)
    (right : ∀ character ∈ second.toList, IsClerical character) :
    ∀ character ∈ (first ++ second).toList, IsClerical character := by
  intro character member
  rw [String.toList_append] at member
  exact (List.mem_append.1 member).elim (left character) (right character)

namespace Calendar

theorem isClerical_padded (width number : Nat) :
    ∀ character ∈ (padded width number).toList, IsClerical character := by
  intro character member
  simp only [padded, String.toList_ofList] at member
  rcases List.mem_append.1 member with zero | digit
  · cases List.eq_of_mem_replicate zero
    exact .inl rfl
  · exact isClerical_digits number character digit

/-- A time is written in digits and marks. -/
theorem isClerical_stamp (time : Instant) :
    ∀ character ∈ (stamp time).toList, IsClerical character := by
  have dash : ∀ character ∈ "-".toList, IsClerical character := by
    simp [IsClerical]
  have line : ∀ character ∈ "_".toList, IsClerical character := by
    simp [IsClerical]
  have year (number : Int) : ∀ character ∈ (yearText number).toList, IsClerical character := by
    refine isClerical_append ?_ (isClerical_padded 4 _)
    split
    · exact dash
    · split <;> simp [IsClerical]
  have pair := isClerical_padded 2
  refine isClerical_append (isClerical_append (isClerical_append ?_ (pair _)) (pair _)) (pair _)
  refine isClerical_append (isClerical_append (isClerical_append ?_ dash) (pair _)) line
  exact isClerical_append (isClerical_append (year _) dash) (pair _)

end Calendar

namespace SaveFile

/-- A letter or digit, or a dash for anything else. -/
theorem mem_plainName {name : String} {character : Char}
    (member : character ∈ (plainName name).toList) :
    isAlphanumeric character = true ∨ character = '-' := by
  rw [plainName, String.toList_ofList] at member
  obtain ⟨original, -, rfl⟩ := List.mem_map.1 member
  split
  · exact .inl ‹_›
  · exact .inr rfl

theorem toList_fileName (file : SaveFile) :
    file.fileName.toList = Nat.toDigits 10 file.slot ++ '_' ::
      ((plainName file.playerName).toList ++ '_' :: (file.stamp.toList ++ '.' :: "json".toList)) := by
  have slot : (toString file.slot).toList = Nat.toDigits 10 file.slot := Nat.toList_repr
  have line : "_".toList = ['_'] := rfl
  have ending : ".json".toList = '.' :: "json".toList := rfl
  simp only [fileName, String.toList_append, slot, line, ending, List.append_assoc,
    List.cons_append, List.nil_append]

variable {file : SaveFile}

theorem mem_fileName (stamped : ∃ time, file.stamp = Calendar.stamp time) {character : Char}
    (member : character ∈ file.fileName.toList) :
    IsClerical character ∨ isAlphanumeric character = true ∨ character ∈ ".json".toList := by
  obtain ⟨time, stamped⟩ := stamped
  rw [toList_fileName, stamped] at member
  simp only [List.mem_append, List.mem_cons] at member
  rcases member with slot | rfl | name | rfl | stamp | rfl | ending
  · exact .inl (isClerical_digits _ _ slot)
  · exact .inl (by decide)
  · rcases mem_plainName name with plain | rfl
    · exact .inr (.inl plain)
    · exact .inl (by decide)
  · exact .inl (by decide)
  · exact .inl (Calendar.isClerical_stamp time _ stamp)
  · exact .inr (.inr (by decide))
  · exact .inr (.inr (List.mem_cons_of_mem '.' ending))

/-- The name of a save file can be the name of an entry. -/
theorem isPlain_fileName (stamped : ∃ time, file.stamp = Calendar.stamp time) :
    Disk.IsPlain file.fileName := by
  have line : '_' ∈ file.fileName.toList := by
    simp [toList_fileName]
  have absent {character : Char} (other : ¬(IsClerical character ∨
      isAlphanumeric character = true ∨ character ∈ ".json".toList)) :
      character ∉ file.fileName.toList :=
    fun member => other (mem_fileName stamped member)
  refine ⟨?_, ?_, ?_, absent (by decide +kernel), absent (by decide +kernel)⟩ <;>
  · intro same
    rw [same] at line
    revert line
    decide

theorem takeWhile_fileName (file : SaveFile) :
    file.fileName.toList.takeWhile (fun character => character ≠ '_') =
      Nat.toDigits 10 file.slot := by
  have digits : ∀ character ∈ Nat.toDigits 10 file.slot,
      decide (character ≠ '_') = true := by
    rintro character member
    rw [decide_eq_true_eq]
    rintro rfl
    have digit : '_'.isDigit = true := Nat.isDigit_of_mem_toDigits (by decide) (by decide) member
    cases digit
  rw [toList_fileName, List.takeWhile_append_of_pos digits]
  simp

/-- The slot is read back from the name of a file. -/
theorem slotOfName?_fileName (slot : file.slot < slotBound) :
    DirectoryStore.slotOfName? file.fileName = some file.slot := by
  have line : file.fileName.toList.contains '_' = true := by
    simp [toList_fileName]
  rw [DirectoryStore.slotOfName?]
  simp only [line, if_true, takeWhile_fileName, Json.boundedNumeral?_toDigits slot]

/-- The extension is what follows the last dot. -/
theorem splitExtension_eq {name : String} {stem extension : List Char}
    (shape : name.toList = stem ++ '.' :: extension) (some_stem : stem ≠ [])
    (some_extension : extension ≠ []) (dotless : '.' ∉ extension) :
    Disk.splitExtension name = (String.ofList stem, some (String.ofList extension)) := by
  have last : (name.toList.reverse.takeWhile fun character => character ≠ '.').reverse =
      extension := by
    have kept : ∀ character ∈ extension.reverse, decide (character ≠ '.') = true := by
      rintro character member
      rw [decide_eq_true_eq]
      rintro rfl
      exact dotless (List.mem_reverse.1 member)
    rw [shape, List.reverse_append, List.reverse_cons, List.append_assoc,
      List.takeWhile_append_of_pos kept]
    simp
  have front : name.toList.take (name.toList.length - extension.length - 1) = stem := by
    rw [shape, List.length_append, List.length_cons,
      show stem.length + (extension.length + 1) - extension.length - 1 = stem.length by omega,
      List.take_left]
  have shorter : extension.length ≠ name.toList.length := by
    simp only [shape, List.length_append, List.length_cons]
    omega
  have no_dots : name.toList ≠ ['.', '.'] := by
    intro dots
    obtain ⟨character, rest, rfl⟩ := List.exists_cons_of_ne_nil some_extension
    have member : character ∈ name.toList := by simp [shape]
    rw [dots] at member
    have dot : character = '.' := by simpa using member
    exact dotless (dot ▸ List.mem_cons_self ..)
  simp only [Disk.splitExtension, last, front]
  simp [shorter, no_dots, some_stem]

theorem splitExtension_fileName (file : SaveFile) :
    (Disk.splitExtension file.fileName).2 = some "json" := by
  have shape : file.fileName.toList = (Nat.toDigits 10 file.slot ++ '_' ::
      ((plainName file.playerName).toList ++ '_' :: file.stamp.toList)) ++
        '.' :: "json".toList := by
    simp [toList_fileName]
  rw [splitExtension_eq shape (by simp) (by decide) (by decide)]
  rfl

end SaveFile

end VisualNovel
