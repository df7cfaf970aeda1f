import VisualNovel.Proofs.Interpreter.Lines

/-!
# Layers of what is shown

Injected lines cover what the story shows, and each is put on the stack of continuations above what
it covers. Under all of them lies the base: the screen and the status that belong to the current
step, with at most one thing left to do. An interpreter whose layers lie over a base that fits the
current step is coherent.
-/

namespace VisualNovel

/-- What is on screen, what the story waits for, and what is left to do. -/
structure Display where
  screen : Screen
  status : Status
  left : List Continuation

namespace Display

/-- The display under injected lines. -/
def under (screen : Screen) (status : Status) : List Continuation → Display
  | .interjection covered waiting :: left => under covered waiting left
  | left => ⟨screen, status, left⟩

end Display

namespace Interpreter

variable {interpreter after : Interpreter} {step : Step}

/-- The display under all injected lines. -/
def base (interpreter : Interpreter) : Display :=
  .under interpreter.screen interpreter.status interpreter.continuations

/-- Whether a title card goes on by itself, or at the end of its effect. -/
def isTimed (interpreter : Interpreter) : Bool :=
  interpreter.timer.isSome || interpreter.effectPending

/-- The display and what is left to do belong to the current step. -/
structure Coherent (interpreter : Interpreter) : Prop where
  /-- Injected lines lie above at most one base entry. -/
  stack : ∃ injected left, interpreter.continuations = injected ++ left ∧
    (∀ entry ∈ injected, entry.isInterjection = true) ∧
    (∀ entry ∈ left, entry.isInterjection = false) ∧ left.length ≤ 1
  /-- An injected line waits as a line. -/
  interrupted : interpreter.isInterrupted = true → interpreter.status = .dialogue
  /-- A choice shows one label an option. -/
  choice : interpreter.base.status = .choice →
    ∃ offer state, interpreter.currentKind? = some (.choice offer) ∧
      interpreter.base.screen.choices =
        offer.options.map (fun option => StateTree.substitute state option.text) ∧
      interpreter.base.left = []
  /-- A question is on screen with the path of its step. -/
  input : interpreter.base.status = .input →
    ∃ path text prompt, interpreter.currentKind? = some (.input path text) ∧
      interpreter.base.screen.input = some prompt ∧ prompt.path = path ∧
      interpreter.base.left = []
  /-- A title card is on screen with the effects and the duration of its step. -/
  titles : ∀ durationMs, interpreter.base.status = .titles durationMs →
    ∃ card state, interpreter.currentKind? = some (.titles card) ∧
      interpreter.base.screen.title = some ⟨StateTree.substitute state card.text, card.effectStart,
        card.effect, card.effectEnd, card.typewriter, card.durationMs?⟩ ∧
      durationMs = card.durationMs? ∧ interpreter.base.left = []
  /-- A line is that of the current step, with its next part left, or that of an action of the
  current choice, with the actions behind it left. -/
  dialogue : interpreter.base.status = .dialogue →
    interpreter.base.screen.IsLine ∧
      ((∃ line, interpreter.currentKind? = some (.dialogue line) ∧
          (interpreter.base.left = [] ∨ ∃ next, next < line.parts.length ∧
            interpreter.base.left = [.dialogueParts next])) ∨
        ∃ offer option done remaining, interpreter.currentKind? = some (.choice offer) ∧
          option ∈ offer.options ∧ option.actionList = done ++ remaining ∧
          interpreter.base.left = [.choiceActions remaining])
  /-- A story that does not wait shows nothing and has nothing left to do. -/
  idle : interpreter.base.status.isWaiting = false →
    interpreter.base.screen = .blank ∧ interpreter.base.left = []
  /-- Only a title card with a duration goes on by itself. -/
  timed : interpreter.isTimed = true →
    ∃ durationMs, interpreter.base.status = .titles (some durationMs)

/-- What the base shows and has left to do at a step. -/
inductive Fits (current : Option StepKind) :
    Bool → Screen → Status → List Continuation → Prop where
  | idle {status : Status} :
      status.isWaiting = false → Fits current false .blank status []
  | line {line : Dialogue} {screen : Screen} :
      current = some (.dialogue line) → screen.IsLine → Fits current false screen .dialogue []
  | parts {line : Dialogue} {screen : Screen} {next : Nat} :
      current = some (.dialogue line) → screen.IsLine → next < line.parts.length →
      Fits current false screen .dialogue [.dialogueParts next]
  | actions {offer : Choice} {option : ChoiceOption} {screen : Screen}
      {done remaining : List ChoiceAction} :
      current = some (.choice offer) → option ∈ offer.options →
      option.actionList = done ++ remaining → screen.IsLine →
      Fits current false screen .dialogue [.choiceActions remaining]
  | titles {card : Titles} {state : StateTree} {timed : Bool} :
      current = some (.titles card) → (timed = true → card.durationMs?.isSome = true) →
      Fits current timed
        { Screen.blank with title := some ⟨state.substitute card.text, card.effectStart,
            card.effect, card.effectEnd, card.typewriter, card.durationMs?⟩ }
        (.titles card.durationMs?) []
  | input {path text : Option String} {prompt : InputPrompt} :
      current = some (.input path text) → prompt.path = path →
      Fits current false { Screen.blank with input := some prompt } .input []
  | choice {offer : Choice} {state : StateTree} {screen : Screen} :
      current = some (.choice offer) →
      screen.choices = offer.options.map (fun option => state.substitute option.text) →
      Fits current false screen .choice []

/-- Injected lines lie over a base that fits. -/
def Layered (current : Option StepKind) (timed : Bool) :
    Screen → Status → List Continuation → Prop
  | _, status, .interjection covered waiting :: left =>
      status = .dialogue ∧ Layered current timed covered waiting left
  | screen, status, left => Fits current timed screen status left

/-- The form of coherence that the operations keep. -/
def Settled (interpreter : Interpreter) : Prop :=
  Layered interpreter.currentKind? interpreter.isTimed interpreter.screen interpreter.status
    interpreter.continuations

variable {current : Option StepKind} {timed : Bool} {screen : Screen} {status : Status}
variable {left : List Continuation}

/-! ## Reading coherence off the layers -/

theorem Fits.length_le (fits : Fits current timed screen status left) : left.length ≤ 1 := by
  cases fits <;> simp

theorem Fits.isInterjection {entry : Continuation} (fits : Fits current timed screen status left)
    (member : entry ∈ left) : entry.isInterjection = false := by
  cases fits with
  | parts | actions =>
      simp only [List.mem_singleton] at member
      subst member
      rfl
  | _ => cases member

/-- The base under the layers fits. -/
theorem Layered.fits (layered : Layered current timed screen status left) :
    Fits current timed (Display.under screen status left).screen
      (Display.under screen status left).status (Display.under screen status left).left := by
  induction left generalizing screen status with
  | nil => exact layered
  | cons entry left ih =>
      cases entry with
      | interjection covered waiting => exact ih layered.2
      | dialogueParts next => exact layered
      | choiceActions remaining => exact layered

/-- The injected lines are on top of the stack. -/
theorem Layered.stack (layered : Layered current timed screen status left) :
    ∃ injected, left = injected ++ (Display.under screen status left).left ∧
      ∀ entry ∈ injected, entry.isInterjection = true := by
  induction left generalizing screen status with
  | nil => exact ⟨[], rfl, by simp⟩
  | cons entry left ih =>
      cases entry with
      | interjection covered waiting =>
          obtain ⟨injected, split, all⟩ := ih layered.2
          refine ⟨.interjection covered waiting :: injected, congrArg _ split, ?_⟩
          intro entry member
          cases member with
          | head => rfl
          | tail _ member => exact all entry member
      | dialogueParts next => exact ⟨[], rfl, by simp⟩
      | choiceActions remaining => exact ⟨[], rfl, by simp⟩

/-- An injected line lies on top of the stack. -/
theorem isInterrupted_eq_true (interrupted : interpreter.isInterrupted = true) :
    ∃ screen status left, interpreter.continuations = .interjection screen status :: left := by
  simp only [isInterrupted] at interrupted
  cases stack : interpreter.continuations with
  | nil => simp [stack] at interrupted
  | cons entry left =>
      cases entry with
      | interjection screen status => exact ⟨screen, status, left, rfl⟩
      | dialogueParts next => simp [stack, Continuation.isInterjection] at interrupted
      | choiceActions remaining => simp [stack, Continuation.isInterjection] at interrupted

/-- An advance dismisses the injected line on top. -/
theorem advance_uncover (top : interpreter.continuations = .interjection screen status :: left) :
    interpreter.advance = interpreter.uncover screen status left := by
  simp only [advance]
  rw [top]

/-- Layers over a base that fits are coherent. -/
theorem Settled.coherent (settled : interpreter.Settled) : interpreter.Coherent := by
  have fits := Layered.fits settled
  obtain ⟨injected, split, all⟩ := Layered.stack settled
  change Fits _ _ interpreter.base.screen interpreter.base.status interpreter.base.left at fits
  change interpreter.continuations = injected ++ interpreter.base.left at split
  have interrupted : interpreter.isInterrupted = true → interpreter.status = .dialogue := by
    intro interrupted
    obtain ⟨covered, waiting, left, stack⟩ := isInterrupted_eq_true interrupted
    simp only [Settled] at settled
    rw [stack] at settled
    exact settled.1
  have stack : ∃ injected left, interpreter.continuations = injected ++ left ∧
      (∀ entry ∈ injected, entry.isInterjection = true) ∧
      (∀ entry ∈ left, entry.isInterjection = false) ∧ left.length ≤ 1 :=
    ⟨injected, _, split, all, fun entry member => fits.isInterjection member, fits.length_le⟩
  constructor
  · exact stack
  · exact interrupted
  all_goals
    generalize interpreter.base = base at fits ⊢
    generalize interpreter.isTimed = timed at fits ⊢
    obtain ⟨screen, status, left⟩ := base
    simp only at fits
  · rintro rfl
    cases fits with
    | idle idle => cases idle
    | choice kind labels => exact ⟨_, _, kind, labels, rfl⟩
  · rintro rfl
    cases fits with
    | idle idle => cases idle
    | input kind path => exact ⟨_, _, _, kind, rfl, path, rfl⟩
  · rintro durationMs rfl
    generalize same : Status.titles durationMs = status at fits
    cases fits with
    | idle idle =>
        subst same
        cases idle
    | titles kind =>
        cases same
        exact ⟨_, _, kind, rfl, rfl, rfl⟩
    | _ => cases same
  · rintro rfl
    cases fits with
    | idle idle => cases idle
    | line kind line => exact ⟨line, .inl ⟨_, kind, .inl rfl⟩⟩
    | parts kind line below => exact ⟨line, .inl ⟨_, kind, .inr ⟨_, below, rfl⟩⟩⟩
    | actions kind member split line => exact ⟨line, .inr ⟨_, _, _, _, kind, member, split, rfl⟩⟩
  · intro idle
    cases fits with
    | idle => exact ⟨rfl, rfl⟩
    | _ => cases idle
  · intro armed
    cases fits with
    | titles kind duration =>
        obtain ⟨durationMs, same⟩ := Option.isSome_iff_exists.1 (duration armed)
        exact ⟨durationMs, congrArg _ same⟩
    | _ => cases armed

theorem Fits.untimed (fits : Fits current timed screen status left) {later : Bool}
    (fewer : later = true → timed = true) : Fits current later screen status left := by
  cases later with
  | true =>
      rw [fewer rfl] at fits
      exact fits
  | false =>
      cases fits with
      | idle resting => exact .idle resting
      | line current lined => exact .line current lined
      | parts current lined below => exact .parts current lined below
      | actions current member split lined => exact .actions current member split lined
      | titles current duration => exact .titles current (by simp)
      | input current path => exact .input current path
      | choice current labels => exact .choice current labels

/-- A base that fits is layered, without injected lines. -/
theorem Fits.layered (fits : Fits current timed screen status left) :
    Layered current timed screen status left := by
  cases left with
  | nil => exact fits
  | cons entry left =>
      cases entry with
      | interjection covered waiting => cases fits.isInterjection (List.mem_cons_self ..)
      | dialogueParts next => exact fits
      | choiceActions remaining => exact fits

/-! ## The layer on top -/

/-- Without an injected line on top the base itself is on screen. -/
theorem base_uncovered (top : interpreter.isInterrupted = false) :
    interpreter.base = ⟨interpreter.screen, interpreter.status, interpreter.continuations⟩ := by
  simp only [isInterrupted] at top
  simp only [Interpreter.base]
  generalize interpreter.continuations = left at top ⊢
  cases left with
  | nil => rfl
  | cons entry left =>
      cases entry with
      | interjection covered waiting => cases top
      | dialogueParts next => rfl
      | choiceActions remaining => rfl

theorem Settled.uncovered (settled : interpreter.Settled)
    (top : interpreter.isInterrupted = false) :
    Fits interpreter.currentKind? interpreter.isTimed interpreter.screen interpreter.status
      interpreter.continuations := by
  have fits := Layered.fits settled
  rw [show Display.under interpreter.screen interpreter.status interpreter.continuations =
    ⟨interpreter.screen, interpreter.status, interpreter.continuations⟩ from base_uncovered top]
    at fits
  exact fits

end Interpreter

end VisualNovel
