import VisualNovel.Proofs.Interpreter.Punctuality

/-!
# Acknowledging the end of a card

When the effect at the end of a title card is awaited, the host acknowledges it, and the
acknowledgement is an advance. A timer waits while an injected line covers the card. An
acknowledgement does not: it dismisses the line on top and is used up by that. The lines under it
are dismissed by advances, and behind the last of them only one more advance leaves the card.
-/

namespace VisualNovel

/-- Whether the operation reports that time has passed or that an effect has ended. -/
def Operation.isReport : Operation → Bool
  | fireTimer _ => true
  | tick _ => true
  | acknowledgeEffect => true
  | _ => false

namespace Interpreter

open Operation

variable {interpreter before : Interpreter} {left : List Continuation}

/-! ## Lines over the base -/

/-- The number of injected lines over the base. -/
def lines (interpreter : Interpreter) : Nat :=
  (interpreter.continuations.takeWhile Continuation.isInterjection).length

/-- The interpreter with its base on screen. -/
def uncovered (interpreter : Interpreter) : Interpreter :=
  { interpreter with
    screen := interpreter.base.screen
    status := interpreter.base.status
    continuations := interpreter.base.left }

theorem lines_eq_zero (bare : interpreter.lines = 0) : interpreter.isInterrupted = false := by
  simp only [lines] at bare
  simp only [isInterrupted]
  cases stack : interpreter.continuations with
  | nil => rfl
  | cons entry left =>
      cases entry with
      | interjection screen status =>
          rw [stack] at bare
          cases bare
      | dialogueParts next => rfl
      | choiceActions remaining => rfl

theorem lines_eq_succ {further : Nat} (covered : interpreter.lines = further + 1) :
    ∃ screen status left, interpreter.continuations = .interjection screen status :: left ∧
      { interpreter with screen, status, continuations := left }.lines = further := by
  simp only [lines] at covered
  cases stack : interpreter.continuations with
  | nil =>
      rw [stack] at covered
      cases covered
  | cons entry left =>
      rw [stack] at covered
      cases entry with
      | interjection screen status => exact ⟨screen, status, left, rfl, Nat.succ.inj covered⟩
      | dialogueParts next => cases covered
      | choiceActions remaining => cases covered

theorem uncovered_bare (bare : interpreter.isInterrupted = false) :
    interpreter.uncovered = interpreter := by
  simp only [uncovered]
  rw [base_uncovered bare]

/-- Under a line that is taken away lies the same base. -/
theorem uncovered_dismissed {screen : Screen} {status : Status}
    (top : interpreter.continuations = .interjection screen status :: left) :
    { interpreter with screen, status, continuations := left }.uncovered =
      interpreter.uncovered := by
  simp only [uncovered, base]
  rw [top]
  rfl

/-- As many advances as lines bring the base back. -/
theorem performAll_uncovers (interpreter : Interpreter) :
    performAll interpreter (.replicate interpreter.lines .advance) = interpreter.uncovered := by
  generalize counted : interpreter.lines = count
  induction count generalizing interpreter with
  | zero => exact (uncovered_bare (lines_eq_zero counted)).symm
  | succ further ih =>
      obtain ⟨screen, status, left, top, fewer⟩ := lines_eq_succ counted
      have dismissed : perform interpreter .advance =
          { interpreter with screen, status, continuations := left } :=
        congrArg Outcome.after (advance_uncover top)
      rw [List.replicate_succ, performAll, List.foldl_cons, dismissed, ← uncovered_dismissed top]
      exact ih _ fewer

/-! ## Behind the acknowledgement -/

/-- The card under the lines, without an effect that is awaited. -/
def cardLeft (interpreter : Interpreter) : Interpreter :=
  { interpreter.uncovered with effectPending := false }

/-- Reports do nothing to a story without a timer and without an awaited effect. -/
theorem performAll_reports {operations : List Operation} (timer : interpreter.timer = none)
    (effectPending : interpreter.effectPending = false)
    (reports : ∀ operation ∈ operations, operation.isReport = true) :
    performAll interpreter operations = interpreter := by
  induction operations with
  | nil => rfl
  | cons operation operations ih =>
      have still : perform interpreter operation = interpreter := by
        have report := reports operation (List.mem_cons_self ..)
        cases operation with
        | fireTimer token =>
            simp only [perform, fireTimer]
            rw [timer]
            rfl
        | tick now =>
            simp only [perform, tick]
            rw [timer]
            rfl
        | acknowledgeEffect =>
            simp only [perform, acknowledgeEffect]
            rw [effectPending]
            rfl
        | _ => cases report
      rw [performAll, List.foldl_cons, still]
      exact ih fun operation member => reports operation (List.mem_cons_of_mem _ member)

/-- An acknowledgement is an advance behind which no effect is awaited. -/
theorem acknowledgeEffect_awaited (awaited : interpreter.effectPending = true) :
    interpreter.acknowledgeEffect = { interpreter with effectPending := false }.advance :=
  if_pos awaited

theorem acknowledgeEffect_interjection {screen : Screen} {status : Status}
    (awaited : interpreter.effectPending = true)
    (top : interpreter.continuations = .interjection screen status :: left) :
    interpreter.acknowledgeEffect = ⟨.ok status, { interpreter with
      screen, status, continuations := left, effectPending := false }⟩ := by
  have forgotten : { interpreter with effectPending := false }.continuations =
      .interjection screen status :: left := top
  rw [acknowledgeEffect_awaited awaited, advance_uncover forgotten]
  rfl

/-- An awaited effect is that of a card with a duration, whose timer has fired. -/
theorem Numbered.cardLeft (numbered : before.Numbered) (awaited : before.effectPending = true) :
    before.cardLeft.continuations = [] ∧ before.cardLeft.timer = none ∧
      ∃ durationMs, before.cardLeft.status = .titles (some durationMs) := by
  have timed : before.isTimed = true := by simp [isTimed, awaited]
  have fits := Layered.fits numbered.settled
  rw [timed] at fits
  refine ⟨fits.timed.1, ?_, numbered.settled.coherent.timed timed⟩
  change before.timer = none
  cases armed : before.timer with
  | none => rfl
  | some timer =>
      rw [numbered.single (by rw [armed]; rfl)] at awaited
      cases awaited

/-- An acknowledgement takes the place of the advance that dismisses the line on top. -/
theorem performAll_acknowledged {further : Nat} (awaited : before.effectPending = true)
    (covered : before.lines = further + 1) :
    performAll before (.acknowledgeEffect :: .replicate further .advance) = before.cardLeft := by
  obtain ⟨screen, status, left, top, fewer⟩ := lines_eq_succ covered
  have dismissed : perform before .acknowledgeEffect =
      { before with screen, status, continuations := left, effectPending := false } :=
    congrArg Outcome.after (acknowledgeEffect_interjection awaited top)
  rw [performAll, List.foldl_cons, dismissed, Interpreter.cardLeft, ← uncovered_dismissed top,
    ← fewer]
  exact performAll_uncovers
    { before with screen, status, continuations := left, effectPending := false }

/-- The story goes on with an acknowledgement when no line covers the card, also behind advances
that have dismissed the lines. But while a line covers it, the acknowledgement dismisses the line on
top, and is forgotten: once the other lines are dismissed too, the card is on screen, no timer and
no further acknowledgement moves the story on, and only an advance does. -/
theorem acknowledgeEffect_forgotten (content : Content) (settings : StorySettings)
    (before : Interpreter) (reachable : before.Reachable content settings)
    (awaited : before.effectPending = true) :
    (performAll before (.replicate before.lines .advance)).acknowledgeEffect =
        before.cardLeft.stepForward ∧
      ∀ further, before.lines = further + 1 →
        (∃ screen status left, before.continuations = .interjection screen status :: left ∧
          before.acknowledgeEffect = ⟨.ok status, { before with
            screen, status, continuations := left, effectPending := false }⟩) ∧
        performAll before (.acknowledgeEffect :: .replicate further .advance) = before.cardLeft ∧
        (∃ durationMs, before.cardLeft.status = .titles (some durationMs)) ∧
        (∀ reports : List Operation, (∀ report ∈ reports, report.isReport = true) →
          performAll before.cardLeft reports = before.cardLeft) ∧
        before.cardLeft.advance = before.cardLeft.stepForward := by
  have numbered : before.Numbered := by
    obtain ⟨operations, rfl⟩ := reachable
    exact performAll_numbered content settings operations
  obtain ⟨done, timer, durationMs, waits⟩ := numbered.cardLeft awaited
  have goesOn : before.cardLeft.advance = before.cardLeft.stepForward :=
    advance_done done (.inr ⟨_, waits⟩)
  constructor
  · have pending : before.uncovered.effectPending = true := awaited
    rw [performAll_uncovers, acknowledgeEffect_awaited pending]
    exact goesOn
  · intro further covered
    obtain ⟨screen, status, left, top, -⟩ := lines_eq_succ covered
    exact ⟨⟨screen, status, left, top, acknowledgeEffect_interjection awaited top⟩,
      performAll_acknowledged awaited covered, ⟨durationMs, waits⟩,
      fun reports all => performAll_reports timer rfl all, goesOn⟩

/-- A card that ends with an effect, and a line behind it. -/
def curtainContent : Content :=
  (Library.empty.addUnit ⟨"start", [
    ⟨none, .titles ⟨"The End", some 500, none, none, some "fade", false, none⟩⟩,
    ⟨none, .dialogue ⟨none, "Thank you.", none, []⟩⟩]⟩).toContent

/-- The timer of the card has fired, and a line covers the card. -/
def curtain : Interpreter :=
  performAll (.new curtainContent .standard) [.start "start", .fireTimer 1, .inject none "Psst!"]

/-- The acknowledgement dismisses the line, and another one leaves the card where it is. -/
theorem acknowledgeEffect_forgotten_curtain :
    curtain.effectPending = true ∧ curtain.lines = 1 ∧ curtain.screen.narration = "Psst!" ∧
      performAll curtain [.acknowledgeEffect] = curtain.cardLeft ∧
      curtain.cardLeft.screen.narration = "" ∧
      performAll curtain.cardLeft [.acknowledgeEffect, .fireTimer 1] = curtain.cardLeft ∧
      curtain.cardLeft.advance.after.screen.narration = "Thank you." := by
  have reachable : curtain.Reachable curtainContent .standard := ⟨_, rfl⟩
  obtain ⟨-, covered⟩ := acknowledgeEffect_forgotten curtainContent .standard curtain reachable rfl
  obtain ⟨-, dismissed, -, stays, -⟩ := covered 0 rfl
  exact ⟨rfl, rfl, rfl, dismissed, rfl, stays [.acknowledgeEffect, .fireTimer 1] (by decide), rfl⟩

end Interpreter

end VisualNovel
