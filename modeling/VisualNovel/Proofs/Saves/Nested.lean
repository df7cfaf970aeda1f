import VisualNovel.Proofs.Saves.Finite

/-!
# Saves that are nested too deeply

A save file is read back from its text when its document is not nested too deeply. Otherwise some
value of the game is, because nothing else in a save is nested deeply, and the file cannot be read.
-/

namespace VisualNovel

open Json (Fields optionalMember nestingLimit cut)

namespace Json

theorem cutItems_eq_map (depth : Nat) (items : List Json) :
    cutItems depth items = items.map (cut depth) := by
  induction items with
  | nil => rfl
  | cons item items ih => rw [cutItems, ih, List.map_cons]

theorem cutMembers_eq_map (depth : Nat) (members : Fields) :
    cutMembers depth members = members.map fun member => (member.1, cut depth member.2) := by
  induction members with
  | nil => rfl
  | cons member members ih => rw [cutMembers, ih, List.map_cons]

theorem exists_unreadable_item {items : List Json} (unreadable : areReadable items = false) :
    ∃ item ∈ items, item.isReadable = false := by
  induction items with
  | nil => cases unreadable
  | cons item items ih =>
      rcases Bool.and_eq_false_iff.1 unreadable with first | others
      · exact ⟨item, List.mem_cons_self .., first⟩
      · obtain ⟨other, member, found⟩ := ih others
        exact ⟨other, List.mem_cons_of_mem item member, found⟩

theorem exists_unreadable_member {members : Fields} (unreadable : membersReadable members = false) :
    ∃ member ∈ members, member.2.isReadable = false := by
  induction members with
  | nil => cases unreadable
  | cons member members ih =>
      rcases Bool.and_eq_false_iff.1 unreadable with first | others
      · exact ⟨member, List.mem_cons_self .., first⟩
      · obtain ⟨other, inside, found⟩ := ih others
        exact ⟨other, List.mem_cons_of_mem member inside, found⟩

theorem nestingItems_le {bound : Nat} {items : List Json}
    (each : ∀ item ∈ items, item.nesting ≤ bound) : nestingItems items ≤ bound := by
  induction items with
  | nil => exact Nat.zero_le bound
  | cons item items ih =>
      obtain ⟨first, others⟩ := List.forall_mem_cons.1 each
      exact Nat.max_le.2 ⟨first, ih others⟩

theorem nestingMembers_le {bound : Nat} {members : Fields}
    (each : ∀ member ∈ members, member.2.nesting ≤ bound) : nestingMembers members ≤ bound := by
  induction members with
  | nil => exact Nat.zero_le bound
  | cons member members ih =>
      obtain ⟨first, others⟩ := List.forall_mem_cons.1 each
      exact Nat.max_le.2 ⟨first, ih others⟩

theorem nesting_array_le {α : Type} {encode : α → Json} {bound : Nat} {items : List α}
    (each : ∀ item ∈ items, (encode item).nesting ≤ bound) :
    (Json.array (items.map encode)).nesting ≤ bound + 1 :=
  Nat.succ_le_succ (nestingItems_le (List.forall_mem_map.2 each))

theorem nesting_object_le {α : Type} {encode : α → Json} {bound : Nat} {entries : Dict α}
    (each : ∀ entry ∈ entries, (encode entry.2).nesting ≤ bound) :
    (Json.object (Dict.mapValues encode entries)).nesting ≤ bound + 1 :=
  Nat.succ_le_succ (nestingMembers_le (List.forall_mem_map.2 each))

/-- A dictionary with an unreadable value is not read. -/
theorem dictOf?_unreadable {α : Type} {decode : Json → Option α} {document : Json}
    (refuses : ∀ document : Json, document.isReadable = false → decode document = none)
    (unreadable : document.isReadable = false) : dictOf? decode document = none := by
  cases document with
  | object members =>
      obtain ⟨member, inside, found⟩ := exists_unreadable_member unreadable
      have refused : (decode member.2).map (member.1, ·) = none := by
        rw [refuses member.2 found]
        rfl
      rw [dictOf?, mapM_eq_none_iff.2 ⟨member, inside, refused⟩]
      rfl
  | _ => rfl

end Json

theorem Value.mapOfJson?_unreadable {document : Json} (unreadable : document.isReadable = false) :
    mapOfJson? document = none := by
  rw [mapOfJson?, ofJson?_unreadable unreadable]
  rfl

/-! ## Characters -/

namespace VisibleCharacter

variable {character : VisibleCharacter} {form : Json → Json}

theorem cut_toJson (character : VisibleCharacter) :
    cut 3 character.toJson.written =
      character.shown fun document => cut 4 document.written := by
  rw [written_toJson, shown, cut, if_pos (by decide), Json.cutMembers, Json.cutMembers_eq_map,
    shownMembers, List.map_map]
  rfl

/-- A character whose document is nested too deeply is not read. -/
theorem ofJson?_cut (unreadable : (cut 3 character.toJson.written).isReadable = false) :
    ofJson? (cut 3 character.toJson.written) = none := by
  rw [cut_toJson] at unreadable ⊢
  have deep : ∃ field ∈ character.allFields,
      readField? (fun document => cut 4 document.written) field.2 = none := by
    obtain ⟨member, inside, found⟩ := Json.exists_unreadable_member unreadable
    rcases List.mem_cons.1 inside with rfl | inside
    · cases found
    · obtain ⟨field, displayed, rfl⟩ := List.mem_map.1 inside
      obtain ⟨known, present⟩ := List.mem_filter.1 displayed
      refine ⟨field, known, ?_⟩
      rw [readField?, if_neg (by simpa using present)]
      exact Value.ofJson?_unreadable found
  obtain ⟨field, known, refused⟩ := deep
  rw [ofJson?_shown]
  simp only [allFields, List.mem_cons, List.not_mem_nil, or_false] at known
  rcases known with rfl | rfl | rfl | rfl | rfl <;> simp [refused]

end VisibleCharacter

/-! ## Records -/

namespace SaveRecord

variable {game : SaveRecord}

theorem cut_toJson (game : SaveRecord) :
    cut 1 game.toJson.written =
      .object (game.shownFields fun document => cut 2 document.written) := by
  obtain ⟨unitId, step, callStack, global, deltas, visible, scene, history, audio, part⟩ := game
  cases scene <;> cases history <;> cases part <;> rfl

/-- The cast whose document is nested too deeply is not read. -/
theorem listOf?_cut {visible : List VisibleCharacter}
    (unreadable :
      (cut 2 (Json.array (visible.map VisibleCharacter.toJson)).written).isReadable = false) :
    Json.listOf? VisibleCharacter.ofJson?
      (cut 2 (Json.array (visible.map VisibleCharacter.toJson)).written) = none := by
  rw [Json.written, cut, if_pos (by decide), Json.writtenItems_eq_map, Json.cutItems_eq_map,
    List.map_map, List.map_map] at unreadable ⊢
  obtain ⟨document, inside, found⟩ := Json.exists_unreadable_item unreadable
  obtain ⟨character, shown, rfl⟩ := List.mem_map.1 inside
  exact mapM_eq_none_iff.2 ⟨_, inside, VisibleCharacter.ofJson?_cut found⟩

theorem nesting_line (line : HistoryEntry) : line.toJson.nesting ≤ 1 := by
  obtain ⟨kind, speaker, text, step⟩ := line
  cases silent : speaker.isEmpty <;> cases step <;>
    simp [HistoryEntry.toJson, silent, optionalMember, Json.natural, Json.nesting,
      Json.nestingMembers]

/-- Nothing but values of the game is nested deeply. -/
theorem nesting_le {bound : Nat} (shallow : 2 ≤ bound)
    (global : (Value.mapToJson game.global).nesting ≤ bound)
    (deltas : (Json.object (Dict.mapValues Value.mapToJson game.deltas)).nesting ≤ bound)
    (visible : (Json.array (game.visible.map VisibleCharacter.toJson)).nesting ≤ bound) :
    game.toJson.nesting ≤ bound + 1 := by
  have callStack : (Json.array (game.callStack.map CallFrame.toJson)).nesting ≤ bound :=
    Nat.le_trans (Json.nesting_array_le fun frame _ => Nat.le_refl 1) shallow
  have history : ∀ lines, (historyToJson lines).nesting ≤ bound := fun lines =>
    Nat.le_trans (Json.nesting_array_le fun line _ => nesting_line line) shallow
  have audio : (Json.object (Dict.mapValues AudioStream.toJson game.audio)).nesting ≤ bound :=
    Nat.le_trans (Json.nesting_object_le fun stream _ => Nat.le_refl 1) shallow
  have scene : (Json.ofOption Json.text game.scene).nesting ≤ bound := by
    cases game.scene <;> exact Nat.zero_le bound
  rw [toJson, Json.nesting]
  refine Nat.succ_le_succ (Json.nestingMembers_le ?_)
  have text (value : String) : (Json.text value).nesting ≤ bound := Nat.zero_le bound
  have natural (value : Nat) : (Json.natural value).nesting ≤ bound := Nat.zero_le bound
  cases game.history <;> cases game.dialoguePart <;>
    simp only [optionalMember, List.forall_mem_append, List.forall_mem_cons,
      List.not_mem_nil, false_implies, text, natural, callStack, global, deltas, visible, history,
      audio, scene, implies_true, and_self]

/-- A record whose document is nested too deeply is not read. -/
theorem ofJson?_cut (deep : nestingLimit < 1 + game.toJson.nesting) :
    ofJson? (cut 1 game.toJson.written) = none := by
  have unreadable {document : Json} (beyond : 125 < document.nesting) :
      (cut 2 document.written).isReadable = false :=
    Json.isReadable_cut document.written 2
      (by rw [Json.nesting_written, Json.nestingLimit]; omega) (by decide)
  rw [cut_toJson, ofJson?_shown]
  by_cases global : (Value.mapToJson game.global).nesting ≤ 125
  · by_cases deltas :
        (Json.object (Dict.mapValues Value.mapToJson game.deltas)).nesting ≤ 125
    · by_cases visible : (Json.array (game.visible.map VisibleCharacter.toJson)).nesting ≤ 125
      · have shallow := nesting_le (by decide) global deltas visible
        simp only [nestingLimit] at deep
        omega
      · rw [listOf?_cut (unreadable (Nat.lt_of_not_le visible))]
        simp
    · rw [Json.dictOf?_unreadable (fun _ => Value.mapOfJson?_unreadable)
        (unreadable (Nat.lt_of_not_le deltas))]
      simp
  · rw [Value.mapOfJson?_unreadable (unreadable (Nat.lt_of_not_le global))]
    simp

end SaveRecord

/-! ## Files -/

namespace SaveFile

variable {file : SaveFile}

theorem cut_toJson (file : SaveFile) :
    cut 0 file.toJson.written = file.shown fun document => cut 1 document.written := rfl

theorem nesting_toJson (file : SaveFile) : file.toJson.nesting = file.game.toJson.nesting + 1 := by
  simp [toJson, Json.nesting, Json.nestingMembers, Json.natural]

/-- The text of a save file whose numbers are finite and exact is read as the file, without the
identifiers of its streams, exactly when the document is not nested too deeply. -/
theorem read?_indented (slot : file.slot < slotBound)
    (time : file.timestamp < 9223372036854775808) (proper : file.game.Proper)
    (finite : file.game.nonFinite? = none) (exact_numbers : file.toJson.Exact) :
    (Json.read? file.toJson.indented).bind ofJson? =
      if file.toJson.nesting ≤ nestingLimit then some file.withoutStreamIds else none := by
  rw [Json.read?_indented exact_numbers, Option.bind_some]
  split
  · rename_i shallow
    rw [Json.cut_eq_self _ 0 (by rw [Json.nesting_written]; omega), ofJson?_written slot time proper,
      (SaveRecord.plain_eq_self_iff file.game).2 finite]
    rfl
  · rename_i deep
    have beyond : nestingLimit < 1 + file.game.toJson.nesting := by
      rw [nesting_toJson] at deep
      omega
    rw [cut_toJson, ofJson?_shown _ slot time, SaveRecord.ofJson?_cut beyond]
    rfl

end SaveFile

end VisualNovel
