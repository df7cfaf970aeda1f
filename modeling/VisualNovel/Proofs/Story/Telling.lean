import VisualNovel.History
import VisualNovel.State.Placeholder
import VisualNovel.Story.Unit

/-!
# What a unit tells

A unit that goes straight on from step to step, with texts that are the same in every state, tells
the same lines whenever it is played. Only the names of its speakers are left open.
-/

namespace VisualNovel

/-! ## Texts without placeholders -/

namespace TextPiece

/-- Whether the piece stands for itself. -/
def isPlain : TextPiece → Bool
  | .plain _ => true
  | .placeholder _ => false

/-- Whether a text has no placeholders. -/
def isLiteral (text : String) : Bool :=
  (split none text.toList).all isPlain

theorem render_plain {piece : TextPiece} (plain : piece.isPlain = true) (state : StateTree) :
    piece.render state = String.ofList piece.source := by
  cases piece with
  | plain characters => rfl
  | placeholder path => cases plain

theorem join_sources (pieces : List TextPiece) :
    String.join (pieces.map fun piece => String.ofList piece.source) =
      String.ofList (pieces.flatMap source) := by
  induction pieces with
  | nil => rfl
  | cons piece pieces ih =>
      rw [List.map_cons, String.join_cons, ih, List.flatMap_cons, String.ofList_append]

end TextPiece

/-- A text without placeholders is the same over every state. -/
theorem StateTree.substitute_literal {text : String} (literal : TextPiece.isLiteral text = true)
    (state : StateTree) : state.substitute text = text := by
  have plain : ∀ piece ∈ TextPiece.split none text.toList,
      piece.render state = String.ofList piece.source := by
    intro piece member
    exact TextPiece.render_plain (List.all_eq_true.1 literal piece member) state
  simp only [StateTree.substitute]
  rw [List.map_congr_left plain, TextPiece.join_sources, TextPiece.flatMap_source_split]
  exact String.ofList_toList

/-! ## Lines -/

namespace Dialogue

variable {line : Dialogue} {part : DialoguePart} {shown : Nat}

/-- The text of a line and of its first parts. -/
def textUpTo (line : Dialogue) (shown : Nat) : String :=
  String.join (line.text :: (line.parts.take shown).map DialoguePart.text)

/-- The entry of a line in the log. -/
def entry (line : Dialogue) (name : String → String) (text : String) : HistoryEntry :=
  match line.character.map name with
  | some speaker => .dialogue speaker text
  | none => .narration text

theorem textUpTo_zero (line : Dialogue) : line.textUpTo 0 = line.text := by
  simp [textUpTo]

theorem textUpTo_succ (found : line.parts[shown]? = some part) :
    line.textUpTo (shown + 1) = line.textUpTo shown ++ part.text := by
  simp only [textUpTo]
  rw [List.take_add_one, found, List.map_append, ← List.cons_append, String.join_append]
  simp

theorem textUpTo_of_le (all : line.parts.length ≤ shown) :
    line.textUpTo shown = line.textUpTo line.parts.length := by
  simp only [textUpTo]
  rw [List.take_of_length_le all, List.take_length]

/-- The log of a line at a step, once all of its parts are shown. -/
def logged (line : Dialogue) (name : String → String) (index shown : Nat) (history : History) :
    History :=
  if shown < line.parts.length then history
  else history.push ((line.entry name (line.textUpTo line.parts.length)).atStep index)

end Dialogue

/-- Whether a step leads to the next one and shows the same texts over every state: it does not move
the story, its texts have no placeholders, and its options have no actions. -/
def StepKind.isStraight : StepKind → Bool
  | .dialogue line => TextPiece.isLiteral line.text &&
      line.parts.all fun part => TextPiece.isLiteral part.text
  | .titles card => TextPiece.isLiteral card.text
  | .choice offer => offer.options.all fun option => option.actionList.isEmpty
  | .goto _ => false
  | .back => false
  | .finish => false
  | _ => true

/-- The character that speaks the line of a step. -/
def StepKind.speaker? : StepKind → Option String
  | .dialogue line => line.character
  | _ => none

/-- The entry of a step in the log, when the step is passed. -/
def Step.told? (name : String → String) (index : Nat) (step : Step) : Option HistoryEntry :=
  match step.kind with
  | .dialogue line => some ((line.entry name (line.textUpTo line.parts.length)).atStep index)
  | .titles card => some ((HistoryEntry.titles card.text).atStep index)
  | _ => none

namespace StoryUnit

variable {story : StoryUnit} {step : Step} {position : Nat}

/-- Whether every step leads to the next one and shows the same texts over every state. -/
def isStraight (story : StoryUnit) : Bool :=
  story.steps.all fun step => step.kind.isStraight

/-- The characters that speak in a unit. -/
def speakers (story : StoryUnit) : List String :=
  story.steps.filterMap fun step => step.kind.speaker?

/-- The log of the first steps of a unit. -/
def told (story : StoryUnit) (name : String → String) (passed : Nat) : List HistoryEntry :=
  (story.steps.take passed).zipIdx.filterMap fun (step, index) => step.told? name index

theorem isStraight_step (straight : story.isStraight = true)
    (found : story.step? position = some step) : step.kind.isStraight = true :=
  List.all_eq_true.1 straight step (List.mem_of_getElem? found)

theorem told_zero (story : StoryUnit) (name : String → String) : story.told name 0 = [] := rfl

/-- What is gathered from the first steps, when there is one step more. -/
theorem gather_succ {α : Type} (pick : Step × Nat → Option α)
    (found : story.step? position = some step) :
    (story.steps.take (position + 1)).zipIdx.filterMap pick =
      (story.steps.take position).zipIdx.filterMap pick ++ (pick (step, position)).toList := by
  have found : story.steps[position]? = some step := found
  have length : (story.steps.take position).length = position := by
    have below := (List.getElem?_eq_some_iff.1 found).1
    rw [List.length_take]
    omega
  rw [List.take_add_one, found, List.zipIdx_append, List.filterMap_append, length]
  cases picked : pick (step, position) <;> simp [picked]

/-- A step that is passed adds its entry. -/
theorem told_succ (name : String → String) (found : story.step? position = some step) :
    story.told name (position + 1) =
      story.told name position ++ (step.told? name position).toList :=
  gather_succ _ found

end StoryUnit

end VisualNovel
