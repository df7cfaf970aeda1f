import VisualNovel.Proofs.Saves.Nested
import VisualNovel.Proofs.Story.Documents

/-!
# Story units as texts

The document of a unit is nested seven deep at most, and the durations of its title cards are its
only numbers. So its text, with or without blanks, is read as the unit when these numbers are read
as they were written.
-/

namespace VisualNovel

open Json (Fields optionalMember)

namespace Json

/-- The text of the document is read as a whole inside some arrays and objects, if the document is
nested at most so deep: the numbers are exact. -/
structure Legible (depth : Nat) (document : Json) : Prop where
  exact : document.Exact
  nesting : document.nesting ≤ depth

variable {depth : Nat} {document : Json}

theorem Legible.mono {deeper : Nat} (legible : Legible depth document) (within : depth ≤ deeper) :
    Legible deeper document :=
  ⟨legible.exact, Nat.le_trans legible.nesting within⟩

theorem exactItems_iff {items : List Json} :
    ExactItems items ↔ ∀ item ∈ items, item.Exact := by
  induction items with
  | nil => simp [ExactItems]
  | cons item items ih => simp [ExactItems, ih]

theorem exactMembers_iff {members : Fields} :
    ExactMembers members ↔ ∀ member ∈ members, member.2.Exact := by
  induction members with
  | nil => simp [ExactMembers]
  | cons member members ih => simp [ExactMembers, ih]

theorem legible_text (depth : Nat) (value : String) : Legible depth (.text value) :=
  ⟨trivial, Nat.zero_le depth⟩

theorem legible_bool (depth : Nat) (value : Bool) : Legible depth (.bool value) :=
  ⟨trivial, Nat.zero_le depth⟩

theorem legible_array {α : Type} {encode : α → Json} {items : List α}
    (each : ∀ item ∈ items, Legible depth (encode item)) :
    Legible (depth + 1) (.array (items.map encode)) := by
  constructor
  · exact exactItems_iff.2 (List.forall_mem_map.2 fun item listed => (each item listed).exact)
  · exact nesting_array_le fun item listed => (each item listed).nesting

theorem legible_object {members : Fields} (each : ∀ member ∈ members, Legible depth member.2) :
    Legible (depth + 1) (.object members) := by
  constructor
  · exact exactMembers_iff.2 fun member listed => (each member listed).exact
  · exact Nat.succ_le_succ (nestingMembers_le fun member listed => (each member listed).nesting)

theorem forall_optionalMember {α : Type} {name : String} {encode : α → Json} {value : Option α}
    (each : ∀ content, value = some content → Legible depth (encode content)) :
    ∀ member ∈ optionalMember name encode value, Legible depth member.2 := by
  intro member listed
  cases value with
  | none => cases listed
  | some content =>
      rw [List.mem_singleton.1 listed]
      exact each content rfl

theorem forall_optionalText (depth : Nat) (name : String) (value : Option String) :
    ∀ member ∈ optionalMember name Json.text value, Legible depth member.2 :=
  forall_optionalMember fun content _ => legible_text depth content

/-- A legible document is read from its text as what the text shows of it. -/
theorem Legible.read?_compact (legible : Legible nestingLimit document) :
    read? document.compact = some document.written := by
  have shallow : 0 + document.written.nesting ≤ nestingLimit := by
    rw [nesting_written, Nat.zero_add]
    exact legible.nesting
  rw [Json.read?_compact legible.exact, cut_eq_self document.written 0 shallow]

theorem Legible.read?_indented (legible : Legible nestingLimit document) :
    read? document.indented = some document.written := by
  have shallow : 0 + document.written.nesting ≤ nestingLimit := by
    rw [nesting_written, Nat.zero_add]
    exact legible.nesting
  rw [Json.read?_indented legible.exact, cut_eq_self document.written 0 shallow]

end Json

open Json (Legible)

theorem AudioCue.toMembers_legible (cue : AudioCue) (depth : Nat) :
    ∀ member ∈ cue.toMembers, Legible depth member.2 := by
  simp only [toMembers, List.forall_mem_append, List.forall_mem_cons]
  refine ⟨⟨Json.legible_text depth cue.file, ?_⟩, Json.forall_optionalText depth _ cue.stream⟩
  exact Json.forall_optionalMember fun looping _ => Json.legible_bool depth looping

theorem DialoguePart.toJson_legible (part : DialoguePart) : Legible 1 part.toJson := by
  apply Json.legible_object
  simp only [List.forall_mem_cons]
  exact ⟨Json.legible_text 0 part.text, Json.forall_optionalText 0 _ part.assignment⟩

theorem Dialogue.toMembers_legible (line : Dialogue) :
    ∀ member ∈ line.toMembers, Legible 2 member.2 := by
  rw [toMembers_eq]
  simp only [List.forall_mem_append, List.forall_mem_cons]
  refine ⟨⟨⟨Json.forall_optionalText 2 _ line.character, Json.legible_text 2 line.text,
    List.forall_mem_nil _⟩, Json.forall_optionalText 2 _ line.assignment⟩, ?_⟩
  apply Json.forall_optionalMember
  intro parts _
  exact Json.legible_array fun part _ => part.toJson_legible

/-- The duration is the only number of a title card. -/
theorem Titles.toMembers_legible {card : Titles}
    (exact : ∀ duration, card.duration = some duration → Json.ReadsBack duration) (depth : Nat) :
    ∀ member ∈ card.toMembers, Legible depth member.2 := by
  simp only [toMembers, List.forall_mem_append, List.forall_mem_cons]
  refine ⟨⟨⟨⟨⟨⟨⟨Json.legible_text depth card.text, List.forall_mem_nil _⟩, ?_⟩,
    Json.forall_optionalText depth _ card.effectStart⟩,
    Json.forall_optionalText depth _ card.effect⟩,
    Json.forall_optionalText depth _ card.effectEnd⟩,
    Json.legible_bool depth card.typewriter, List.forall_mem_nil _⟩,
    Json.forall_optionalText depth _ card.assignment⟩
  apply Json.forall_optionalMember
  intro duration lasts
  exact ⟨fun _ => exact duration lasts, Nat.zero_le depth⟩

theorem ChoiceAction.toJson_legible (action : ChoiceAction) : Legible 1 action.toJson := by
  cases action with
  | dialogue character text =>
      apply Json.legible_object
      simp only [List.forall_mem_append, List.forall_mem_cons]
      exact ⟨⟨⟨Json.legible_text 0 "dialogue", List.forall_mem_nil _⟩,
        Json.forall_optionalText 0 _ character⟩, Json.legible_text 0 text, List.forall_mem_nil _⟩
  | goto target =>
      apply Json.legible_object
      simp only [List.forall_mem_cons]
      exact ⟨Json.legible_text 0 "goto", Json.legible_text 0 target, List.forall_mem_nil _⟩
  | «show» character =>
      apply Json.legible_object
      simp only [List.forall_mem_cons]
      exact ⟨Json.legible_text 0 "show", Json.legible_text 0 character, List.forall_mem_nil _⟩
  | hide character =>
      apply Json.legible_object
      simp only [List.forall_mem_cons]
      exact ⟨Json.legible_text 0 "hide", Json.legible_text 0 character, List.forall_mem_nil _⟩

theorem ChoiceOption.toJson_legible (option : ChoiceOption) : Legible 3 option.toJson := by
  apply Json.legible_object
  simp only [List.forall_mem_cons]
  refine ⟨Json.legible_text 2 option.text, ?_⟩
  apply Json.forall_optionalMember
  intro actions _
  exact Json.legible_array fun action _ => action.toJson_legible

theorem Choice.toMembers_legible (choice : Choice) :
    ∀ member ∈ choice.toMembers, Legible 4 member.2 := by
  simp only [toMembers, List.forall_mem_append, List.forall_mem_cons]
  refine ⟨⟨Json.forall_optionalText 4 _ choice.text, Json.forall_optionalText 4 _ choice.speaker⟩,
    ?_, List.forall_mem_nil _⟩
  exact Json.legible_array fun option _ => option.toJson_legible

namespace Step

theorem kind_legible {step : Step}
    (exact : ∀ duration, step.duration? = some duration → Json.ReadsBack duration) :
    ∀ member ∈ step.kind.toMembers, Legible 4 member.2 := by
  obtain ⟨label, kind⟩ := step
  have tag := Json.legible_text 4 kind.name
  cases kind with
  | scene id => exact List.forall_mem_cons.2 ⟨tag, Json.forall_optionalText 4 _ id⟩
  | play channel cue => exact List.forall_mem_cons.2 ⟨tag, cue.toMembers_legible 4⟩
  | dialogue line =>
      refine List.forall_mem_cons.2 ⟨tag, ?_⟩
      exact fun member listed => (line.toMembers_legible member listed).mono (by decide)
  | titles card => exact List.forall_mem_cons.2 ⟨tag, Titles.toMembers_legible exact 4⟩
  | input path text =>
      exact List.forall_mem_cons.2 ⟨tag, List.forall_mem_append.2
        ⟨Json.forall_optionalText 4 _ path, Json.forall_optionalText 4 _ text⟩⟩
  | choice offer => exact List.forall_mem_cons.2 ⟨tag, offer.toMembers_legible⟩
  | stopAllStreams => exact List.forall_mem_singleton.2 tag
  | back => exact List.forall_mem_singleton.2 tag
  | finish => exact List.forall_mem_singleton.2 tag
  | assign expression => exact List.forall_mem_singleton.2 (Json.legible_text 4 expression)
  | «show» value | hide value | stopStream value | goto value =>
      exact List.forall_mem_cons.2 ⟨tag, List.forall_mem_singleton.2 (Json.legible_text 4 value)⟩

theorem toJson_legible {step : Step}
    (exact : ∀ duration, step.duration? = some duration → Json.ReadsBack duration) :
    Legible 5 step.toJson := by
  apply Json.legible_object
  rw [List.forall_mem_append]
  exact ⟨Json.forall_optionalText 4 _ step.label, kind_legible exact⟩

end Step

namespace StoryUnit

theorem toJson_legible {story : StoryUnit}
    (exact : ∀ duration ∈ story.durations, Json.ReadsBack duration) :
    Legible 7 story.toJson := by
  apply Json.legible_object
  rw [List.forall_mem_cons]
  refine ⟨Json.legible_text 6 story.id, List.forall_mem_singleton.2 ?_⟩
  apply Json.legible_array
  intro step listed
  apply Step.toJson_legible
  intro duration lasts
  exact exact duration (List.mem_filterMap.2 ⟨step, listed, lasts⟩)

/-- A unit is read back from its document exactly when the durations of its title cards are finite,
and from its text when they are also read as they were written. An object with a member `type` is
never read as an assignment, whatever else it holds. -/
theorem document_round_trip (story : StoryUnit) :
    (ofJson? story.toJson.written = some story ↔
        ∀ duration ∈ story.durations, duration.isFinite = true) ∧
      ((∀ duration ∈ story.durations, duration.isFinite = true ∧ Json.ReadsBack duration) →
        (Json.read? story.toJson.compact).bind ofJson? = some story ∧
          (Json.read? story.toJson.indented).bind ofJson? = some story) ∧
      ∀ members : Fields, "type" ∈ members.map Prod.fst →
        ∀ step, Step.ofJson? (.object members) = some step →
          ∀ expression, step.kind ≠ .assign expression := by
  have read : ofJson? story.toJson.written = some story ↔
      ∀ duration ∈ story.durations, duration.isFinite = true := by
    rw [ofJson?_written, Option.some.injEq]
    exact story.plain_eq_self_iff
  refine ⟨read, ?_, ?_⟩
  · intro exact
    have back := read.2 fun duration listed => (exact duration listed).1
    have legible := (toJson_legible fun duration listed => (exact duration listed).2).mono
      (show 7 ≤ Json.nestingLimit by decide)
    rw [legible.read?_compact, legible.read?_indented]
    exact ⟨back, back⟩
  · intro members typed step read expression
    exact Step.ofJson?_typed typed read expression

/-- A unit with a choice, whose options have no actions, an empty list of them, or some, and with a
card, a line in parts and an assignment. -/
def evening : StoryUnit where
  id := "evening"
  steps :=
    [⟨some "door", .choice ⟨none, some "Mia", [⟨"Wait", none⟩, ⟨"Stay", some []⟩,
        ⟨"Go", some [.show "mc", .dialogue none "Bye", .goto "street"]⟩]⟩⟩,
      ⟨none, .titles ⟨"Night", none, some "fade", none, none, true, none⟩⟩,
      ⟨some "", .dialogue ⟨none, "Hello", none, [⟨"!", some "global.met = 1"⟩]⟩⟩,
      ⟨none, .assign "global.night = 1"⟩]

/-- A jump that also carries what an assignment is written as. -/
def disguised : Fields :=
  [("variable", .text "global.night = 1"), ("target", .text "door"), ("type", .text "goto")]

theorem document_round_trip_evening :
    (∀ duration ∈ evening.durations, duration.isFinite = true ∧ Json.ReadsBack duration) ∧
      ofJson? evening.toJson.written = some evening ∧
      (Json.read? evening.toJson.compact).bind ofJson? = some evening ∧
      (Json.read? evening.toJson.indented).bind ofJson? = some evening ∧
      "type" ∈ disguised.map Prod.fst ∧
      ∃ step, Step.ofJson? (.object disguised) = some step ∧
        ∀ expression, step.kind ≠ .assign expression := by
  obtain ⟨tree, text, typed⟩ := document_round_trip evening
  have exact : ∀ duration ∈ evening.durations,
      duration.isFinite = true ∧ Json.ReadsBack duration := List.forall_mem_nil _
  have named : "type" ∈ disguised.map Prod.fst := by decide
  have succeeds : (Step.ofJson? (.object disguised)).isSome = true := by decide +kernel
  obtain ⟨step, read⟩ := Option.isSome_iff_exists.1 succeeds
  obtain ⟨compact, indented⟩ := text exact
  exact ⟨exact, tree.2 (List.forall_mem_nil _), compact, indented, named, step, read,
    typed disguised named step read⟩

end StoryUnit

end VisualNovel
