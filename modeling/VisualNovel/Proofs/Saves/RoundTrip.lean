import VisualNovel.Proofs.Interpreter.Snapshots
import VisualNovel.Proofs.Saves.Recasting

/-!
# Saving and restoring

A story that waits for the player and was saved is restored in every interpreter that has the same
characters in play. It stands at the same place with the same cast, scene and music, and saving it
again gives the same record. Only what the game wrote under the names of derived data is lost,
because these names are never saved.
-/

namespace VisualNovel

namespace SaveCodec

variable {content : Content} {settings limits : StorySettings} {codec used : SaveCodec}
variable {game : SaveRecord} {interpreter other : Interpreter} {status : Status}

/-! ## Records of a story -/

/-- The position of a record is the snapshot that was saved, with a compacted log. -/
theorem Faithful.position_eq (faithful : Faithful content settings codec interpreter)
    {snapshot : Snapshot} (taken : interpreter.snapshot = .ok snapshot) :
    position (codec.recordOf interpreter.state snapshot) =
      { snapshot with history := snapshot.history.map Markup.compactHistory } := by
  obtain ⟨-, shown, heard, -⟩ := Interpreter.snapshot_place taken
  have sorted : Dict.Sorted interpreter.audio.streams := World.Sound.streams faithful.sound
  have keyed : ∀ entry ∈ interpreter.audio.streams, entry.2.id = entry.1 :=
    World.Sound.keyed faithful.sound
  have visible : (codec.recordOf interpreter.state snapshot).visible.map VisibleCharacter.id =
      snapshot.visible := by
    have display : (codec.recordOf interpreter.state snapshot).visible = _ :=
      shown ▸ shown_eq faithful.named
    rw [display, List.map_map, ← shown]
    exact List.map_id' _
  have audio : (((codec.recordOf interpreter.state snapshot).audio.map fun entry =>
      { entry.2 with id := entry.1 }).filter AudioStream.looping) = snapshot.audio := by
    simp only [recordOf]
    rw [← heard, AudioRegistry.loopingStreams_filter,
      AudioRegistry.ofPairs_loopingStreams sorted keyed]
    exact AudioRegistry.keyed_loopingStreams keyed
  change Snapshot.mk _ _ _ ((codec.recordOf interpreter.state snapshot).visible.map _) _ _
    (((codec.recordOf interpreter.state snapshot).audio.map fun entry =>
      { entry.2 with id := entry.1 }).filter AudioStream.looping) _ = _
  rw [visible, audio]
  rfl

/-- The record with the newest lines of its log. -/
def shortened (limit : Nat) (game : SaveRecord) : SaveRecord :=
  { game with history := game.history.map (History.newest limit) }

/-- The record with the texts of its log stripped of attributes. -/
def stripped (game : SaveRecord) : SaveRecord :=
  { game with
    history := game.history.map fun lines =>
      lines.map fun line => { line with text := Markup.strip line.text } }

/-- Lines that were saved have no positions left to lose. -/
theorem compactHistory_newest (limit : Nat) (lines : List HistoryEntry) :
    Markup.compactHistory (History.newest limit (Markup.compactHistory lines)) =
      (History.newest limit (Markup.compactHistory lines)).map fun line =>
        { line with text := Markup.strip line.text } := by
  apply List.map_congr_left
  intro line member
  obtain ⟨origin, -, rfl⟩ := List.mem_map.1 (List.mem_of_mem_drop member)
  rfl

/-! ## Saving the restored story -/

section Restored

variable {saved restored : StateTree} {visible : List String}

/-- The changed fields of the restored characters are those of the record. -/
theorem Recast.deltas_eq (recast : Recast content visible saved restored)
    (cast : saved.Cast content)
    (baselines : ∀ {id data}, (saved.character? id).isSome = true →
      content.character id = .ok data → codec.baseline? id = some (authoredFields data.fields) ∧
        used.baseline? id = some (authoredFields data.fields)) :
    used.deltas restored = codec.deltas saved := by
  apply (deltas_sorted recast.sorted used).ext (deltas_sorted cast.sorted codec)
  intro id
  rw [get?_deltas recast.sorted, get?_deltas cast.sorted]
  cases found : saved.character? id with
  | none =>
      have missing := recast.members id
      rw [found, Option.isSome_none, Option.isSome_eq_false_iff, Option.isNone_iff_eq_none]
        at missing
      rw [missing]
      rfl
  | some before =>
      obtain ⟨data, delivered, -⟩ := cast.plays found
      obtain ⟨fields, put, relays, savable⟩ := recast.relaid found delivered
      obtain ⟨known, kept⟩ := baselines (by rw [found]; rfl) delivered
      rw [put, Option.bind_some, Option.bind_some]
      simp only [delta?]
      rw [known, kept]
      have same := relays.changedFields_eq savable
      simp only [Option.bind_some]
      change (if (changedFields _ fields).isEmpty then none else some (changedFields _ fields)) = _
      rw [same]

/-- The display fields of the restored characters are those of the record. -/
theorem Recast.visible_eq (recast : Recast content visible saved restored)
    (cast : saved.Cast content)
    (shown : ∀ id ∈ visible, (saved.character? id).isSome = true) :
    ((visible.filterMap restored.character?).map fun character =>
        VisibleCharacter.ofFields character.id character.fields) =
      (visible.filterMap saved.character?).map fun character =>
        .ofFields character.id character.fields := by
  have known : ∀ id ∈ visible, ∃ before fields, saved.character? id = some before ∧
      before.id = id ∧ (∃ data, restored.character? id =
        some ((Character.ofRecord id data).withFields fields)) ∧
      VisibleCharacter.ofFields id fields = .ofFields id before.fields := by
    intro id member
    obtain ⟨before, found⟩ := Option.isSome_iff_exists.1 (shown id member)
    obtain ⟨data, delivered, plays⟩ := cast.plays found
    obtain ⟨fields, put, relays, savable⟩ := recast.relaid found delivered
    have display : visible.contains id = true := List.contains_iff_mem.2 member
    rw [display] at relays savable
    exact ⟨before, fields, found, plays.id, ⟨data, put⟩, relays.ofFields_eq savable id⟩
  rw [shown_eq, shown_eq]
  · apply List.map_congr_left
    intro id member
    obtain ⟨before, fields, found, -, ⟨data, put⟩, same⟩ := known id member
    simp only [fieldsOf]
    rw [found, put]
    exact same
  · intro id member
    obtain ⟨before, fields, found, named, -, -⟩ := known id member
    exact ⟨before, found, named⟩
  · intro id member
    obtain ⟨before, fields, -, -, ⟨data, put⟩, -⟩ := known id member
    exact ⟨_, put, rfl⟩

end Restored

/-! ## The round trip -/

/-- A restored character has the index of equipment and the saved form of the fields that it was
saved with. All of its fields come back exactly when those under the names of derived data are the
ones of the content. -/
structure Returns (data : CharacterRecord) (before after : Character) : Prop where
  index : after.equipmentBySlot = before.equipmentBySlot
  saved : (Value.map (authoredFields after.fields) ==
    Value.map (authoredFields before.fields)) = true
  fields : (Value.map (collapsedFields after.fields) ==
      Value.map (collapsedFields before.fields)) = true ↔
    ∀ key ∈ derivedKeys,
      Value.agree (Dict.get? data.fields key) (Dict.get? before.fields key) = true

/-- What a restored story has in common with the one that was saved. -/
structure Regains (content : Content) (before after : Interpreter) : Prop where
  place : after.place = before.place
  visible : after.visible = before.visible
  scene : after.scene = before.scene
  audio : after.audio.loopingStreams = before.audio.loopingStreams
  global : after.state.global = before.state.global
  members : ∀ id, (after.state.character? id).isSome = (before.state.character? id).isSome
  characters : ∀ {id saved restored data}, before.state.character? id = some saved →
    after.state.character? id = some restored → content.character id = .ok data →
    Returns data saved restored

theorem Relaid.returns {data : CharacterRecord} {before : Character} {fields : Dict Value}
    {displayed : Bool} {id : String} (relays : Relaid data.fields before.fields displayed fields)
    (savable : Savable data.fields before.fields displayed) (plays : before.Plays id data) :
    Returns data before ((Character.ofRecord id data).withFields fields) := by
  refine ⟨?_, relays.authoredFields_equal savable, relays.collapsedFields_equal_iff savable⟩
  rw [plays.indexed, plays.equipment]
  exact relays.equipmentIndex_eq savable data.equipment

/-- A story that waits is restored at its place, over the characters as they were saved. -/
theorem Faithful.restored (faithful : Faithful content settings codec interpreter)
    (target : Faithful content limits used other) (proper : content.Proper)
    (members : ∀ id,
      (other.state.character? id).isSome = (interpreter.state.character? id).isSome)
    (room : 0 < limits.maxAutoSteps) (waits : interpreter.pause? = some status)
    {snapshot : Snapshot} (taken : interpreter.snapshot = .ok snapshot)
    (finite : (codec.recordOf interpreter.state snapshot).nonFinite? = none) :
    ∃ captured after, used.restore (codec.recordOf interpreter.state snapshot) other =
        ⟨.ok status, captured, after⟩ ∧
      (∀ {id data}, (interpreter.state.character? id).isSome = true →
        content.character id = .ok data →
        captured.baseline? id = some (authoredFields data.fields)) ∧
      Recast content interpreter.visible interpreter.state after.state ∧
      after.state.global = interpreter.state.global ∧ after.scene = interpreter.scene ∧
      after.snapshot = .ok { snapshot with
        history := some (History.newest (max limits.historyLimit 1)
          (Markup.compactHistory interpreter.history.entries)) } := by
  obtain ⟨-, shown, -, log⟩ := Interpreter.snapshot_place taken
  generalize record : codec.recordOf interpreter.state snapshot = game at finite ⊢
  have known : ∀ id, (Dict.get? game.deltas id).isSome = true →
      (other.state.character? id).isSome = true := by
    intro id changed
    have delta := get?_deltas faithful.cast.sorted codec id
    rw [members]
    cases found : interpreter.state.character? id with
    | some before => rfl
    | none =>
        rw [found] at delta
        rw [← record] at changed
        change (Dict.get? (codec.deltas interpreter.state) id).isSome = true at changed
        rw [delta] at changed
        cases changed
  obtain ⟨ready, loaded, fresh, renewed⟩ := target.reload proper known
  have renews : interpreter.state.Renewed content ready.state := by
    constructor
    · intro id
      exact (renewed.members id).trans (members id)
    · intro id data present delivered
      exact renewed.fresh ((members id).trans present) delivered
  have recast := faithful.recast proper shown.symm (record ▸ finite) fresh.cast.sorted renews
  rw [record] at recast
  have edited : (laid game ready).Sound content limits :=
    fresh.sound.perform (.edit fun state => overlaid game state)
  have visible : ∀ id ∈ interpreter.visible,
      ((laid game ready).state.character? id).isSome = true := by
    intro id member
    exact (recast.members id).trans (faithful.shown id member)
  obtain ⟨after, resumed, state, scene, again⟩ :=
    faithful.sound.resumeFrom_snapshot faithful.settled edited room waits taken visible proper.scene
      (Markup.compactHistory interpreter.history.entries)
  have place := faithful.position_eq taken
  rw [record, log, Option.map_some] at place
  refine ⟨used.capture ready.state, after, ?_, ?_, ?_, ?_, scene, again⟩
  · rw [restore_eq finite loaded, place, resumed]
    rfl
  · intro id data present delivered
    exact fresh.captured ((renews.members id).trans present) delivered
  · rw [state]
    exact ⟨recast.sorted, recast.members, recast.relaid⟩
  · rw [state, ← record]
    rfl

/-- A story that waits and was saved is restored in every interpreter with the same characters. What
it was is regained, and saving it again gives the record back, with the texts of its log stripped
once more; a smaller log keeps its newest lines. -/
theorem restore_round_trip (proper : content.Proper)
    (played : Played content settings codec interpreter) (target : Played content limits used other)
    (members : ∀ id,
      (other.state.character? id).isSome = (interpreter.state.character? id).isSome)
    (room : 0 < limits.maxAutoSteps) (waits : interpreter.pause? = some status)
    (saved : codec.serialize interpreter = .ok game) :
    ∃ captured after, used.restore game other = ⟨.ok status, captured, after⟩ ∧
      Regains content interpreter after ∧
      captured.serialize after = .ok (stripped (shortened (max limits.historyLimit 1) game)) ∧
      (settings.historyLimit ≤ limits.historyLimit →
        shortened (max limits.historyLimit 1) game = game) := by
  have faithful := played.faithful proper
  obtain ⟨snapshot, taken, rfl, finite⟩ := serialize_ok saved
  obtain ⟨place, shown, heard, log⟩ := Interpreter.snapshot_place taken
  obtain ⟨captured, after, restored, baselines, recast, global, scene, again⟩ :=
    faithful.restored (target.faithful proper) proper members room waits taken finite
  refine ⟨captured, after, restored, ?_, ?_, ?_⟩
  · obtain ⟨placeAfter, shownAfter, heardAfter, -⟩ := Interpreter.snapshot_place again
    refine ⟨placeAfter.trans place.symm, shownAfter.trans shown.symm, scene,
      heardAfter.trans heard.symm, global, recast.members, ?_⟩
    intro id before restored data found present delivered
    obtain ⟨origin, same, plays⟩ := faithful.cast.plays found
    rw [delivered] at same
    cases same
    obtain ⟨fields, put, relays, savable⟩ := recast.relaid found delivered
    rw [present] at put
    cases put
    exact relays.returns savable plays
  · have record : captured.recordOf after.state { snapshot with
          history := some (History.newest (max limits.historyLimit 1)
            (Markup.compactHistory interpreter.history.entries)) } =
        stripped (shortened (max limits.historyLimit 1)
          (codec.recordOf interpreter.state snapshot)) := by
      have deltas : captured.deltas after.state = codec.deltas interpreter.state :=
        recast.deltas_eq faithful.cast fun present delivered =>
          ⟨faithful.captured present delivered, baselines present delivered⟩
      have visible := recast.visible_eq faithful.cast faithful.shown
      simp only [recordOf, stripped, shortened]
      rw [deltas, ← shown, visible, global, log]
      simp only [Option.map_some, compactHistory_newest]
    rw [← record]
    apply serialize_eq again
    rw [record]
    exact finite
  · intro enough
    have bounded : interpreter.history.Bounded := World.Sound.history faithful.sound
    have limit : interpreter.history.limit = max settings.historyLimit 1 :=
      World.Sound.limit faithful.sound
    have few : (Markup.compactHistory interpreter.history.entries).length ≤
        max limits.historyLimit 1 := by
      have within := bounded.within
      simp only [Markup.compactHistory]
      rw [List.length_map]
      omega
    simp only [shortened, recordOf]
    rw [log, Option.map_some, Option.map_some, History.newest_of_le few]

/-- Content with a line and a character without derived data. -/
def wornContent : Content :=
  ((Library.empty.addUnit ⟨"start", [⟨none, .dialogue ⟨none, "Hello", none, []⟩⟩]⟩).addCharacter
    "mc" ⟨[("name", .text "Mia")], .null, []⟩).toContent

theorem wornContent_character {id : String} {data : CharacterRecord}
    (delivered : wornContent.character id = .ok data) :
    data = ⟨[("name", .text "Mia")], .null, []⟩ := by
  simp only [wornContent, Library.toContent, Library.load] at delivered
  split at delivered
  · rename_i found
    cases delivered
    have member := Dict.mem_of_get? found
    exact congrArg Prod.snd (List.mem_singleton.1 member)
  · cases delivered

theorem wornContent_proper : wornContent.Proper where
  scene := fun absent => by cases absent
  fields := by
    intro id data delivered
    rw [wornContent_character delivered]
    exact Value.emptyMap_ordered.insert "name" (.text "Mia")
  sprites := by
    intro id data delivered
    rw [wornContent_character delivered]
    exact .null
  equipment := by
    intro id data delivered item member
    rw [wornContent_character delivered] at member
    cases member

/-- The story after its character was loaded. -/
def wornStart : Interpreter := ((Interpreter.new wornContent .standard).loadCharacters ["mc"]).2

/-- The story that wrote under a derived name, which a selector in brackets allows. -/
def wornStory : Interpreter :=
  Operation.perform (Operation.perform wornStart (.start "start"))
    (.edit fun state => (state.write "character.mc[sprites]" (.text "worn")).1)

/-- The field under the derived name is read before the save and gone after the restore. -/
theorem restore_round_trip_worn :
    ∃ game captured after, wornStory.pause? = some .dialogue ∧
      (SaveCodec.empty.capture wornStart.state).serialize wornStory = .ok game ∧
      (SaveCodec.empty.capture wornStart.state).restore game wornStory =
        ⟨.ok .dialogue, captured, after⟩ ∧
      Regains wornContent wornStory after ∧ captured.serialize after = .ok (stripped game) ∧
      wornStory.state.read? "character.mc.sprites" = some (.text "worn") ∧
      ∃ saved restored, wornStory.state.character? "mc" = some saved ∧
        after.state.character? "mc" = some restored ∧
        (Value.map (collapsedFields restored.fields) ==
          Value.map (collapsedFields saved.fields)) = false := by
  have played : Played wornContent .standard (SaveCodec.empty.capture wornStart.state) wornStory :=
    ((Played.new.loaded ["mc"]).performed (.start "start") trivial).performed _
      (.write "character.mc[sprites]" (.text "worn"))
  have found : wornStory.state.character? "mc" = some
      ⟨"mc", [("name", .text "Mia"), ("sprites", .text "worn")], .null, [], []⟩ := rfl
  have succeeds : ((SaveCodec.empty.capture wornStart.state).serialize wornStory).isOk = true := by
    decide +kernel
  generalize serialized : (SaveCodec.empty.capture wornStart.state).serialize wornStory = result
    at succeeds
  cases result with
  | error cause => cases succeeds
  | ok game =>
      obtain ⟨captured, after, restored, regains, again, long⟩ :=
        restore_round_trip wornContent_proper played played (fun _ => rfl) (by decide) rfl serialized
      obtain ⟨character, present⟩ : ∃ character, after.state.character? "mc" = some character :=
        Option.isSome_iff_exists.1 (regains.members "mc")
      have returns := regains.characters found present rfl
      refine ⟨game, captured, after, rfl, rfl, restored, regains, ?_, rfl, _, character, found,
        present, ?_⟩
      · rw [again, long (Nat.le_refl _)]
      · rw [Bool.eq_false_iff]
        intro equal
        have kept := returns.fields.1 equal "sprites" (by decide)
        cases kept

end SaveCodec

end VisualNovel
