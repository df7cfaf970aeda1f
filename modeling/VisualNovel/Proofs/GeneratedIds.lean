import VisualNovel.Proofs.Audio
import Mathlib.Data.List.Perm.Subperm
import Mathlib.Data.List.Nodup

/-!
# Generated identifiers

A stream without an identifier of its own gets one that no stream has, because two numbers never
give the same identifier. So registries that differ in generated identifiers alone go on to do so
when the same streams are played and stopped.
-/

namespace VisualNovel

namespace Dict

variable {α : Type} {entries : Dict α} {key : String} {value : α}

/-- An entry that is left out leaves no trace among the others. -/
theorem filter_insert {keep : String → Bool} (dropped : keep key = false) (entries : Dict α)
    (value : α) : (insert key value entries).filter (fun entry => keep entry.1) =
      entries.filter fun entry => keep entry.1 := by
  induction entries with
  | nil => simp only [insert, List.filter_cons, dropped, List.filter_nil, Bool.false_eq_true,
      ↓reduceIte]
  | cons entry rest ih =>
      obtain ⟨other, kept⟩ := entry
      simp only [insert]
      split
      · rename_i same
        subst same
        simp only [List.filter_cons, dropped, Bool.false_eq_true, ↓reduceIte]
      · split
        · simp only [List.filter_cons, dropped, Bool.false_eq_true, ↓reduceIte]
        · rw [List.filter_cons, List.filter_cons, ih]

theorem filter_erase {keep : String → Bool} (dropped : keep key = false) (entries : Dict α) :
    (erase key entries).filter (fun entry => keep entry.1) =
      entries.filter fun entry => keep entry.1 := by
  simp only [erase]
  rw [List.filter_filter]
  apply List.filter_congr
  intro entry _
  by_cases same : entry.1 = key
  · rw [same, dropped, Bool.false_and]
  · rw [decide_eq_true same, Bool.and_true]

/-- A new entry joins the others. -/
theorem insert_perm (absent : get? entries key = none) (value : α) :
    (insert key value entries).Perm ((key, value) :: entries) := by
  induction entries with
  | nil => exact .refl _
  | cons entry rest ih =>
      obtain ⟨other, kept⟩ := entry
      simp only [get?] at absent
      split at absent
      · cases absent
      · rename_i different
        simp only [insert]
        rw [if_neg (Ne.symm different)]
        split
        · exact .refl _
        · exact ((ih absent).cons _).trans (.swap ..)

end Dict

namespace AudioRegistry

variable {kind : StreamKind} {registry first second : AudioRegistry}

/-! ## Numbers and identifiers -/

/-- The value of a hexadecimal digit. -/
def digitValue (digit : Char) : Nat :=
  if digit.toNat < 58 then digit.toNat - 48 else digit.toNat - 87

/-- The number that hexadecimal digits stand for, behind the digits before them. -/
def digitsValue (before : Nat) (digits : List Char) : Nat :=
  digits.foldl (fun value digit => 16 * value + digitValue digit) before

theorem digitValue_digitChar {digit : Nat} (small : digit < 16) :
    digitValue digit.digitChar = digit := by
  revert digit
  decide

theorem digitsValue_toDigits (number : Nat) : digitsValue 0 (Nat.toDigits 16 number) = number := by
  induction number using Nat.strongRecOn with
  | ind number ih =>
      rw [Nat.toDigits_eq_if (by decide)]
      split
      · rename_i small
        simp only [digitsValue, List.foldl_cons, List.foldl_nil, Nat.mul_zero, Nat.zero_add]
        exact digitValue_digitChar small
      · have rest := ih (number / 16) (by omega)
        simp only [digitsValue] at rest ⊢
        rw [List.foldl_append, rest, List.foldl_cons, List.foldl_nil,
          digitValue_digitChar (Nat.mod_lt _ (by decide))]
        omega

theorem digitsValue_zeros (count : Nat) (digits : List Char) :
    digitsValue 0 (List.replicate count '0' ++ digits) = digitsValue 0 digits := by
  induction count with
  | zero => rfl
  | succ count ih => exact ih

/-- Different numbers give different identifiers. -/
theorem generatedId_injective (kind : StreamKind) : Function.Injective (generatedId kind) := by
  intro number other same
  have digits := congrArg String.toList same
  simp only [generatedId, String.toList_append, String.toList_ofList, List.append_assoc,
    List.append_cancel_left_eq] at digits
  have values := congrArg (digitsValue 0) digits
  rw [digitsValue_zeros, digitsValue_zeros, digitsValue_toDigits, digitsValue_toDigits] at values
  exact values

/-- A generated identifier is not in use. -/
theorem freshNumber_fresh (registry : AudioRegistry) (kind : StreamKind) :
    registry.get? (generatedId kind (registry.freshNumber kind)) = none := by
  simp only [freshNumber]
  generalize found : List.find? _ _ = number
  cases number with
  | some number =>
      have free := List.find?_some found
      simp only [Dict.contains, Bool.not_eq_true', Option.isSome_eq_false_iff,
        Option.isNone_iff_eq_none] at free
      exact free
  | none =>
      -- There are more candidates than streams, so they cannot all be in use.
      have used : (((List.range (registry.streams.length + 1)).map (registry.generated + ·)).map
          (generatedId kind)) ⊆ Dict.keys registry.streams := by
        intro id member
        obtain ⟨number, candidate, rfl⟩ := List.mem_map.1 member
        have taken := List.find?_eq_none.1 found number candidate
        rw [Bool.not_eq_true, Bool.not_eq_false'] at taken
        exact Dict.mem_keys.2 taken
      have distinct : (((List.range (registry.streams.length + 1)).map
          (registry.generated + ·)).map (generatedId kind)).Nodup :=
        (List.Nodup.map (generatedId_injective kind)
          (List.Nodup.map (fun _ _ same => Nat.add_left_cancel same) List.nodup_range))
      have few := (List.subperm_of_subset distinct used).length_le
      simp only [List.length_map, List.length_range, Dict.keys] at few
      omega

/-! ## Streams that sound alike -/

/-- Whether an identifier has the form of a generated one: a channel and at least thirty-two
characters. -/
def looksGenerated (id : String) : Bool :=
  StreamKind.all.any fun kind =>
    (kind.name ++ "_").toList.isPrefixOf id.toList && decide (38 ≤ id.toList.length)

theorem generatedId_looksGenerated (kind : StreamKind) (number : Nat) :
    looksGenerated (generatedId kind number) = true := by
  have prefixed : (kind.name ++ "_").toList.isPrefixOf (generatedId kind number).toList = true := by
    rw [List.isPrefixOf_iff_prefix]
    simp only [generatedId, String.toList_append]
    exact List.prefix_append ..
  have long : 38 ≤ (generatedId kind number).toList.length := by
    simp only [generatedId, String.toList_append, String.toList_ofList, List.length_append,
      List.length_replicate]
    cases kind <;> simp only [StreamKind.name] <;> simp <;> omega
  simp only [looksGenerated, List.any_eq_true]
  exact ⟨kind, by cases kind <;> decide, by rw [prefixed, decide_eq_true long]; rfl⟩

/-- The streams under generated identifiers, without these. -/
def anonymous (registry : AudioRegistry) : List (StreamKind × String × Bool) :=
  (registry.streams.filter fun entry => looksGenerated entry.1).map fun entry =>
    (entry.2.kind, entry.2.file, entry.2.looping)

/-- Two registries hold the same streams but for generated identifiers. -/
structure SoundsAlike (first second : AudioRegistry) : Prop where
  named : ∀ id, looksGenerated id = false → second.get? id = first.get? id
  anonymous : second.anonymous.Perm first.anonymous

theorem SoundsAlike.of_streams (same : second.streams = first.streams) :
    SoundsAlike first second where
  named := fun id _ => by
    simp only [AudioRegistry.get?]
    rw [same]
  anonymous := by
    simp only [AudioRegistry.anonymous]
    rw [same]

theorem SoundsAlike.insert (alike : SoundsAlike first second) {stream : AudioStream}
    (plain : looksGenerated stream.id = false) :
    SoundsAlike (first.insert stream) (second.insert stream) where
  named := by
    intro id other
    simp only [AudioRegistry.get?, AudioRegistry.insert]
    rw [Dict.get?_insert, Dict.get?_insert]
    split
    · rfl
    · exact alike.named id other
  anonymous := by
    simp only [AudioRegistry.anonymous, AudioRegistry.insert]
    rw [Dict.filter_insert plain, Dict.filter_insert plain]
    exact alike.anonymous

/-- A stream under a generated identifier that is not in use is one more. -/
theorem insert_anonymous {stream : AudioStream} (generated : looksGenerated stream.id = true)
    (fresh : registry.get? stream.id = none) :
    (registry.insert stream).anonymous.Perm
      ((stream.kind, stream.file, stream.looping) :: registry.anonymous) := by
  have joined := Dict.insert_perm fresh stream
  have kept := (joined.filter fun entry => looksGenerated entry.1).map fun entry =>
    (entry.2.kind, entry.2.file, entry.2.looping)
  simp only [List.filter_cons, generated, ↓reduceIte, List.map_cons] at kept
  exact kept

/-- Two streams that differ in their generated identifiers alone keep registries alike. -/
theorem SoundsAlike.insertGenerated (alike : SoundsAlike first second) {one two : AudioStream}
    (generated : looksGenerated one.id = true) (regenerated : looksGenerated two.id = true)
    (fresh : first.get? one.id = none) (refreshed : second.get? two.id = none)
    (same : (two.kind, two.file, two.looping) = (one.kind, one.file, one.looping)) :
    SoundsAlike (first.insert one) (second.insert two) where
  named := by
    intro id plain
    have other : ∀ {stream : AudioStream}, looksGenerated stream.id = true → stream.id ≠ id := by
      intro stream looks same
      rw [same, plain] at looks
      cases looks
    simp only [AudioRegistry.get?, AudioRegistry.insert]
    rw [Dict.get?_insert, Dict.get?_insert, if_neg (other generated), if_neg (other regenerated)]
    exact alike.named id plain
  anonymous := by
    have grown := insert_anonymous regenerated refreshed
    rw [same] at grown
    exact grown.trans ((alike.anonymous.cons _).trans (insert_anonymous generated fresh).symm)

/-- The same cue keeps registries alike. -/
theorem SoundsAlike.play (alike : SoundsAlike first second) (kind : StreamKind) (file : String)
    (looping : Option Bool) {id : Option String}
    (plain : ∀ name, id = some name → looksGenerated name = false) :
    SoundsAlike (first.play kind file looping id).1 (second.play kind file looping id).1 := by
  simp only [AudioRegistry.play]
  split
  · rename_i name given
    exact alike.insert (plain name (Option.mem_filter_iff.1 given).1)
  · have counted : SoundsAlike { first with generated := first.freshNumber kind + 1 }
        { second with generated := second.freshNumber kind + 1 } := ⟨alike.named, alike.anonymous⟩
    exact counted.insertGenerated (generatedId_looksGenerated ..) (generatedId_looksGenerated ..)
      (freshNumber_fresh first kind) (freshNumber_fresh second kind) rfl

theorem SoundsAlike.stop (alike : SoundsAlike first second) {id : String}
    (plain : looksGenerated id = false) : SoundsAlike (first.stop id) (second.stop id) where
  named := by
    intro name other
    simp only [AudioRegistry.get?, AudioRegistry.stop]
    rw [Dict.get?_erase, Dict.get?_erase]
    split
    · rfl
    · exact alike.named name other
  anonymous := by
    simp only [AudioRegistry.anonymous, AudioRegistry.stop]
    rw [Dict.filter_erase plain, Dict.filter_erase plain]
    exact alike.anonymous

end AudioRegistry

end VisualNovel
