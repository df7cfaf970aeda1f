import VisualNovel.Proofs.Interpreter.Coherence
import VisualNovel.Proofs.Saves.Restoring
import VisualNovel.Proofs.State.Cast

/-!
# Playing with baselines

A host loads characters and takes their baselines right after it, and otherwise drives the story and
edits the state by paths and assignments. In every interpreter that is reached so, the characters in
play are those of the content, and the baseline of each is what the content has in its fields.
-/

namespace VisualNovel

variable {content : Content} {settings : StorySettings}

/-! ## What play keeps -/

/-- The edits of the interpreter leave the characters in play. -/
theorem StateEdit.follows {change : StateTree → StateTree} {state : StateTree}
    (edit : StateEdit change) (proper : content.Proper) (cast : state.Cast content) :
    state.Follows content (change state) := by
  cases edit with
  | write path ordered => exact cast.write path ordered
  | assign expression => exact cast.assigned proper expression
  | setGlobal ordered => exact cast.setGlobal ordered
  | touch => exact cast.touch

/-- The world has the characters of a state in play, and shows no others. -/
structure World.Plays (content : Content) (origin : StateTree) (world : World) : Prop where
  follows : origin.Follows content world.state
  shown : ∀ id ∈ world.visible, (world.state.character? id).isSome = true

theorem World.Plays.change {origin : StateTree} {before after : World}
    (plays : before.Plays content origin) (proper : content.Proper)
    (change : World.Change StateEdit before after) : after.Plays content origin := by
  cases change with
  | @edited edit allowed =>
      have edited := allowed.follows proper plays.follows.cast
      constructor
      · exact plays.follows.trans edited
      · intro id member
        rw [edited.members]
        exact plays.shown id member
  | cast visible present =>
      constructor
      · exact plays.follows
      · intro id member
        rcases present id member with old | new
        · exact plays.shown id old
        · exact new
  | _ => exact ⟨plays.follows, plays.shown⟩

/-! ## Loading characters -/

namespace StateTree

variable {state before after : StateTree}

/-- A state in which some characters were put as the content delivers them. -/
structure Loads (content : Content) (before after : StateTree) : Prop where
  cast : after.Cast content
  fresh : ∀ id, after.character? id = before.character? id ∨
    ∃ data, content.character id = .ok data ∧ after.character? id = some (.ofRecord id data)
  global : after.global = before.global

theorem Cast.insertCharacter (cast : state.Cast content) (proper : content.Proper) {id : String}
    {data : CharacterRecord} (delivered : content.character id = .ok data) :
    Loads content state (state.insertCharacter (.ofRecord id data)) := by
  have found : ∀ other, (state.insertCharacter (.ofRecord id data)).character? other =
      if id = other then some (.ofRecord id data) else state.character? other :=
    fun other => Dict.get?_insert state.characters id other _
  refine ⟨⟨cast.sorted.insert _ _, ?_, cast.global⟩, ?_, rfl⟩
  · intro other character present
    rw [found] at present
    split at present
    · rename_i same
      cases present
      subst same
      exact ⟨data, delivered, Character.ofRecord_plays (proper.fields delivered)⟩
    · exact cast.plays present
  · intro other
    rw [found]
    split
    · rename_i same
      subst same
      exact .inr ⟨data, delivered, rfl⟩
    · exact .inl rfl

theorem Loads.trans {between : StateTree} (first : Loads content before between)
    (second : Loads content between after) : Loads content before after := by
  refine ⟨second.cast, ?_, second.global.trans first.global⟩
  intro id
  rcases second.fresh id with kept | ⟨data, delivered, put⟩
  · rw [kept]
    exact first.fresh id
  · exact .inr ⟨data, delivered, put⟩

/-- A character stays in play when others are loaded. -/
theorem Loads.isSome (loads : Loads content before after) {id : String}
    (present : (before.character? id).isSome = true) : (after.character? id).isSome = true := by
  rcases loads.fresh id with kept | ⟨data, -, put⟩
  · rw [kept]
    exact present
  · rw [put]
    rfl

end StateTree

namespace Interpreter

variable {interpreter : Interpreter}

/-- The interpreter with a character put as the content delivers it. -/
def withRecord (interpreter : Interpreter) (id : String) (data : CharacterRecord) : Interpreter :=
  { interpreter with state := interpreter.state.insertCharacter (.ofRecord id data) }

theorem loadEach_cons {id : String} {data : CharacterRecord}
    (delivered : interpreter.content.character id = .ok data) (ids : List String) :
    loadEach (id :: ids) interpreter =
      ((loadEach ids (interpreter.withRecord id data)).1.map (id :: ·),
        (loadEach ids (interpreter.withRecord id data)).2) := by
  rw [loadEach, delivered]
  rfl

theorem loadEach_loads (proper : content.Proper) (source : interpreter.content = content)
    (cast : interpreter.state.Cast content) (ids : List String) :
    interpreter.state.Loads content (loadEach ids interpreter).2.state := by
  induction ids generalizing interpreter with
  | nil => exact ⟨cast, fun _ => .inl rfl, rfl⟩
  | cons id ids ih =>
      simp only [loadEach]
      split
      · rename_i data delivered
        rw [source] at delivered
        have first := cast.insertCharacter proper delivered
        have same : (interpreter.withRecord id data).content = content := source
        exact first.trans (ih same first.cast)
      · exact ih source cast
      · exact ⟨cast, fun _ => .inl rfl, rfl⟩

/-- Characters that the content has are loaded as it delivers them. -/
theorem loadEach_known (proper : content.Proper) (source : interpreter.content = content)
    (cast : interpreter.state.Cast content) {ids : List String}
    (known : ∀ id ∈ ids, ∃ data, content.character id = .ok data) :
    (loadEach ids interpreter).1 = .ok ids ∧
      ∀ id ∈ ids, ∃ data, content.character id = .ok data ∧
        (loadEach ids interpreter).2.state.character? id = some (.ofRecord id data) := by
  induction ids generalizing interpreter with
  | nil => exact ⟨rfl, fun _ member => by cases member⟩
  | cons id ids ih =>
      obtain ⟨data, delivered⟩ := known id (List.mem_cons_self ..)
      have first := cast.insertCharacter proper delivered
      have others := fun other member => known other (List.mem_cons_of_mem id member)
      have same : (interpreter.withRecord id data).content = content := source
      have rest := loadEach_loads proper same first.cast ids
      obtain ⟨succeeds, loaded⟩ := ih same first.cast others
      rw [loadEach_cons (source ▸ delivered)]
      constructor
      · rw [succeeds]
        rfl
      · intro other member
        rcases List.mem_cons.1 member with rfl | later
        · rcases rest.fresh other with kept | put
          · refine ⟨data, delivered, ?_⟩
            dsimp only
            rw [kept]
            exact (Dict.get?_insert interpreter.state.characters other other _).trans (if_pos rfl)
          · exact put
        · exact loaded other later

/-- Characters that are not asked for stay as they are. -/
theorem loadEach_other {id : String} {ids : List String} (absent : id ∉ ids)
    (interpreter : Interpreter) :
    (loadEach ids interpreter).2.state.character? id = interpreter.state.character? id := by
  induction ids generalizing interpreter with
  | nil => rfl
  | cons other ids ih =>
      have different : other ≠ id := fun same => absent (same ▸ List.mem_cons_self ..)
      have later : id ∉ ids := fun member => absent (List.mem_cons_of_mem other member)
      simp only [loadEach]
      split
      · dsimp only
        rw [ih later]
        exact (Dict.get?_insert interpreter.state.characters other id _).trans (if_neg different)
      · exact ih later interpreter
      · rfl

theorem loadCharacters_state (interpreter : Interpreter) (ids : List String) :
    (interpreter.loadCharacters ids).2.state = (loadEach ids interpreter).2.state := by
  simp only [loadCharacters]
  split
  · rename_i failed
    rw [failed]
  · rename_i loaded
    rw [loaded]
    rfl

theorem loadCharacters_ok {ids loaded : List String}
    (succeeds : (loadEach ids interpreter).1 = .ok loaded) :
    (interpreter.loadCharacters ids).1 = .ok loaded := by
  simp only [loadCharacters]
  split
  · rename_i failed
    rw [failed] at succeeds
    cases succeeds
  · rename_i passed
    rw [passed] at succeeds
    exact congrArg Except.ok (Except.ok.inj succeeds)

theorem loadCharacters_shown (proper : content.Proper) (source : interpreter.content = content)
    (cast : interpreter.state.Cast content)
    (shown : ∀ id ∈ interpreter.visible, (interpreter.state.character? id).isSome = true)
    (ids : List String) :
    ∀ id ∈ (interpreter.loadCharacters ids).2.visible,
      ((interpreter.loadCharacters ids).2.state.character? id).isSome = true := by
  have loads := loadEach_loads proper source cast ids
  obtain ⟨state, same⟩ := loadEach_eq ids interpreter
  simp only [loadCharacters]
  split
  · rename_i after failed
    rw [failed] at loads same
    change after = _ at same
    subst same
    intro id member
    exact loads.isSome (shown id member)
  · intro id member
    exact (List.mem_filter.1 member).2

end Interpreter

namespace SaveCodec

variable {codec : SaveCodec} {interpreter : Interpreter}

/-- The characters in play come from the content, and each has the fields of the content as its
baseline. -/
structure Faithful (content : Content) (settings : StorySettings) (codec : SaveCodec)
    (interpreter : Interpreter) : Prop where
  sound : interpreter.Sound content settings
  settled : interpreter.Settled
  cast : interpreter.state.Cast content
  shown : ∀ id ∈ interpreter.visible, (interpreter.state.character? id).isSome = true
  captured : ∀ {id data}, (interpreter.state.character? id).isSome = true →
    content.character id = .ok data → codec.baseline? id = some (authoredFields data.fields)
  absent : ∀ id, (interpreter.state.character? id).isSome = false → codec.baseline? id = none

/-- Operations that load no characters keep the baselines faithful. -/
theorem Faithful.perform (faithful : Faithful content settings codec interpreter)
    (proper : content.Proper) (operation : Operation) (within : operation.Within StateEdit) :
    Faithful content settings codec (operation.perform interpreter) := by
  have evolves : interpreter.Evolves StateEdit (operation.perform interpreter) :=
    Interpreter.perform_evolves (fun edit => edit) interpreter operation within
  have begins : interpreter.world.Plays content interpreter.state :=
    ⟨faithful.cast.follows, faithful.shown⟩
  have plays := evolves.keeps (fun plays change => World.Plays.change plays proper change) begins
  have members : ∀ id, ((operation.perform interpreter).state.character? id).isSome =
      (interpreter.state.character? id).isSome := plays.follows.members
  refine ⟨faithful.sound.perform operation,
    Interpreter.perform_settled interpreter operation faithful.settled, plays.follows.cast,
    plays.shown, ?_, ?_⟩
  · intro id data present
    rw [members] at present
    exact faithful.captured present
  · intro id missing
    rw [members] at missing
    exact faithful.absent id missing

theorem baseline?_capture (codec : SaveCodec) (state : StateTree) (id : String) :
    (codec.capture state).baseline? id = (codec.baseline? id).or
      ((state.character? id).map fun character => authoredFields character.fields) := by
  obtain ⟨baselines⟩ := codec
  simp only [capture, baseline?, StateTree.character?]
  generalize state.characters = characters
  induction characters generalizing baselines with
  | nil => simp
  | cons entry characters ih =>
      obtain ⟨key, character⟩ := entry
      simp only [List.foldl_cons, Dict.get?]
      rw [ih]
      unfold Dict.contains
      by_cases same : key = id
      · subst same
        cases known : Dict.get? baselines key with
        | some baseline => simp [known]
        | none => simp [Dict.get?_insert]
      · cases known : Dict.get? baselines key with
        | some baseline => simp [same]
        | none => simp [Dict.get?_insert, same]

/-- Taking baselines again leaves them as they are. -/
theorem Faithful.capture (faithful : Faithful content settings codec interpreter) :
    codec.capture interpreter.state = codec := by
  have known : ∀ entry ∈ interpreter.state.characters,
      Dict.contains codec.baselines entry.1 = true := by
    intro entry member
    have present := faithful.cast.sorted.get?_of_mem member
    obtain ⟨data, delivered, -⟩ := faithful.cast.plays present
    have baseline : Dict.get? codec.baselines entry.1 = some (authoredFields data.fields) :=
      faithful.captured (Option.isSome_iff_exists.2 ⟨_, present⟩) delivered
    simp only [Dict.contains]
    rw [baseline]
    rfl
  obtain ⟨baselines⟩ := codec
  unfold SaveCodec.capture
  congr 1
  generalize interpreter.state.characters = characters at known
  clear faithful
  induction characters with
  | nil => rfl
  | cons entry characters ih =>
      have first := known entry (List.mem_cons_self ..)
      dsimp only at first
      rw [List.foldl_cons]
      dsimp only
      rw [if_pos first]
      exact ih fun other member => known other (List.mem_cons_of_mem entry member)

/-- Characters that are loaded and captured keep the baselines faithful. -/
theorem Faithful.load (faithful : Faithful content settings codec interpreter)
    (proper : content.Proper) (ids : List String) :
    Faithful content settings (codec.capture (interpreter.loadCharacters ids).2.state)
      (interpreter.loadCharacters ids).2 := by
  have source : interpreter.content = content := faithful.sound.source
  have loads := Interpreter.loadEach_loads proper source faithful.cast ids
  rw [← Interpreter.loadCharacters_state] at loads
  refine ⟨faithful.sound.loadCharacters ids,
    Interpreter.loadCharacters_settled faithful.settled ids, loads.cast,
    Interpreter.loadCharacters_shown proper source faithful.cast faithful.shown ids, ?_, ?_⟩
  · intro id data present delivered
    rw [baseline?_capture]
    cases before : (interpreter.state.character? id).isSome with
    | true =>
        rw [faithful.captured before delivered]
        rfl
    | false =>
        rw [faithful.absent id before]
        rcases loads.fresh id with kept | ⟨other, same, put⟩
        · rw [kept, before] at present
          cases present
        · rw [delivered] at same
          cases same
          rw [put]
          rfl
  · intro id missing
    have before : (interpreter.state.character? id).isSome = false := by
      cases present : (interpreter.state.character? id).isSome with
      | false => rfl
      | true =>
          rw [loads.isSome present] at missing
          cases missing
    rw [baseline?_capture, faithful.absent id before]
    rw [Option.isSome_eq_false_iff, Option.isNone_iff_eq_none] at missing
    rw [missing]
    rfl

theorem new_faithful (content : Content) (settings : StorySettings) :
    Faithful content settings .empty (.new content settings) where
  sound := Interpreter.new_sound content settings
  settled := Interpreter.Fits.idle rfl
  cast := ⟨List.Pairwise.nil, fun {_ _} present => (by cases present), Value.emptyMap_ordered⟩
  shown := fun _ member => by cases member
  captured := fun present => by cases present
  absent := fun _ _ => rfl

/-- The interpreters that a host reaches together with the baselines that it takes. Characters are
captured right after they were loaded. -/
inductive Played (content : Content) (settings : StorySettings) : SaveCodec → Interpreter → Prop where
  | new : Played content settings .empty (.new content settings)
  | loaded {codec : SaveCodec} {interpreter : Interpreter} (ids : List String) :
      Played content settings codec interpreter →
      Played content settings (codec.capture (interpreter.loadCharacters ids).2.state)
        (interpreter.loadCharacters ids).2
  | performed {codec : SaveCodec} {interpreter : Interpreter} (operation : Operation) :
      Played content settings codec interpreter → operation.Within StateEdit →
      Played content settings codec (operation.perform interpreter)

/-- In every interpreter that is reached by playing the baselines are faithful. -/
theorem Played.faithful (played : Played content settings codec interpreter)
    (proper : content.Proper) : Faithful content settings codec interpreter := by
  induction played with
  | new => exact new_faithful content settings
  | loaded ids _ ih => exact ih.load proper ids
  | performed operation _ within ih => exact ih.perform proper operation within

end SaveCodec

end VisualNovel
