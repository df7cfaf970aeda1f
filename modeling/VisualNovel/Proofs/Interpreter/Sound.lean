import VisualNovel.Proofs.Dict
import VisualNovel.Proofs.History
import VisualNovel.Proofs.Interpreter.World

/-!
# What holds of the world of every interpreter

The content and the limits of an interpreter never change. What it holds comes from its content,
units are found under their identifiers, the log keeps its limit, and streams are kept in order.
-/

namespace VisualNovel

/-- The world belongs to a content and keeps its limits. -/
structure World.Sound (content : Content) (settings : StorySettings) (world : World) : Prop where
  source : world.content = content
  limits : world.settings = settings
  units : ∀ {id story}, Dict.get? world.units id = some story →
    story.id = id ∧ ∃ source, content.storyUnit id = .ok source ∧ story = { source with id }
  story : ∀ {story}, world.story = some story → Dict.get? world.units story.id = some story
  scene : ∀ {scene}, world.scene = some scene → ∃ id, content.scene id = .ok scene
  history : world.history.Bounded
  limit : world.history.limit = max settings.historyLimit 1
  streams : Dict.Sorted world.audio.streams
  keyed : ∀ entry ∈ world.audio.streams, entry.2.id = entry.1

variable {content : Content} {settings : StorySettings}
variable {edits : (StateTree → StateTree) → Prop} {before after : World}

/-- A unit that joins the loaded ones is what the content delivers. -/
theorem World.Sound.fetched {id : String} {story : StoryUnit} {units : Dict StoryUnit}
    (sound : before.Sound content settings)
    (fetched : Interpreter.Fetched before.content before.units id story units) :
    World.Sound content settings { before with units } := by
  cases fetched with
  | known found => exact sound
  | @loaded source loaded named =>
      have faithful : ∀ {key other}, Dict.get? (Dict.insert id story before.units) key = some other →
          other.id = key ∧
            ∃ source, content.storyUnit key = .ok source ∧ other = { source with id := key } := by
        intro key other found
        rw [Dict.get?_insert] at found
        split at found
        · rename_i same
          cases found
          subst same
          rw [named]
          exact ⟨rfl, source, sound.source ▸ loaded, rfl⟩
        · exact sound.units found
      have current : ∀ {other}, before.story = some other →
          Dict.get? (Dict.insert id story before.units) other.id = some other := by
        intro other running
        have found := sound.story running
        rw [Dict.get?_insert]
        split
        · rename_i same
          obtain ⟨-, origin, delivered, equal⟩ := sound.units found
          rw [named, equal]
          rw [sound.source, same, delivered] at loaded
          cases loaded
          rw [same]
        · exact found
      exact { sound with units := faithful, story := current }

/-- Small changes keep a world sound. -/
theorem World.Sound.change (sound : before.Sound content settings)
    (change : World.Change edits before after) : after.Sound content settings := by
  cases change with
  | fetched fetched => exact sound.fetched fetched
  | @entered id story found =>
      have current : ∀ {other}, some story = some other →
          Dict.get? before.units other.id = some other := by
        intro other same
        cases same
        rw [(sound.units found).1]
        exact found
      exact { sound with story := current }
  | left => exact { sound with story := fun absent => by cases absent }
  | edited allowed => exact { sound with }
  | @changedScene id scene found =>
      have delivered : ∀ {other}, some scene = some other → ∃ id, content.scene id = .ok other := by
        intro other same
        cases same
        exact ⟨id, sound.source ▸ found⟩
      exact { sound with scene := delivered }
  | leftScene => exact { sound with scene := fun absent => by cases absent }
  | cast visible present => exact { sound with }
  | @played stream audio streams =>
      have keyed : ∀ entry ∈ audio.streams, entry.2.id = entry.1 := by
        intro entry member
        rw [streams] at member
        rcases Dict.mem_insert member with rfl | old
        · rfl
        · exact sound.keyed entry old
      exact { sound with streams := streams ▸ sound.streams.insert stream.id stream, keyed }
  | @stopped id audio streams =>
      have keyed : ∀ entry ∈ audio.streams, entry.2.id = entry.1 := by
        intro entry member
        rw [streams] at member
        exact sound.keyed entry (List.mem_filter.1 member).1
      exact { sound with streams := streams ▸ sound.streams.erase id, keyed }
  | silenced audio streams =>
      have keyed : ∀ entry ∈ audio.streams, entry.2.id = entry.1 := by
        intro entry member
        rw [streams] at member
        cases member
      exact { sound with streams := streams ▸ List.Pairwise.nil, keyed }
  | @signalled audio streams =>
      have keyed : ∀ entry ∈ audio.streams, entry.2.id = entry.1 := by
        rw [streams]
        exact sound.keyed
      exact { sound with streams := streams ▸ sound.streams, keyed }
  | logged line => exact { sound with history := sound.history.push line }
  | relogged lines =>
      exact { sound with
        history := sound.history.replace lines
        limit := (sound.history.replace_limit lines).trans sound.limit }

namespace Interpreter

variable {interpreter : Interpreter}

/-- The interpreter belongs to a content and keeps its limits. -/
def Sound (content : Content) (settings : StorySettings) (interpreter : Interpreter) : Prop :=
  interpreter.world.Sound content settings

theorem new_sound (content : Content) (settings : StorySettings) :
    (Interpreter.new content settings).Sound content settings where
  source := rfl
  limits := rfl
  units := by
    intro id story found
    cases found
  story := by
    intro story absent
    cases absent
  scene := by
    intro scene absent
    cases absent
  history := History.new_bounded settings.historyLimit
  limit := rfl
  streams := List.Pairwise.nil
  keyed := by
    intro entry member
    cases member

theorem Sound.evolves {after : Interpreter} (sound : interpreter.Sound content settings)
    (evolves : Evolves edits interpreter after) : after.Sound content settings :=
  World.Changes.keeps (fun sound change => World.Sound.change sound change) evolves sound

theorem Sound.loadCharacters (sound : interpreter.Sound content settings) (ids : List String) :
    (interpreter.loadCharacters ids).2.Sound content settings := by
  obtain ⟨state, visible, events, same⟩ := loadCharacters_eq interpreter ids
  rw [same]
  exact { sound with }

/-- Every operation keeps an interpreter sound. -/
theorem Sound.perform (sound : interpreter.Sound content settings) (operation : Operation) :
    (operation.perform interpreter).Sound content settings := by
  cases operation with
  | loadCharacters ids => exact sound.loadCharacters ids
  | _ =>
      refine sound.evolves (?_ : Evolves (fun _ => True) interpreter _)
      exact perform_evolves (fun _ => trivial) interpreter _ trivial

/-- Every interpreter that a host can reach from a new one is sound. -/
theorem performAll_sound (content : Content) (settings : StorySettings)
    (operations : List Operation) :
    (Operation.performAll (.new content settings) operations).Sound content settings := by
  apply Operation.performAll_induction
  · intro interpreter operation sound
    exact sound.perform operation
  · exact new_sound content settings

theorem Reachable.sound (reachable : interpreter.Reachable content settings) :
    interpreter.Sound content settings := by
  obtain ⟨operations, rfl⟩ := reachable
  exact performAll_sound content settings operations

end Interpreter

end VisualNovel
