import VisualNovel.Proofs.Interpreter.Position
import VisualNovel.Proofs.Interpreter.Timers

/-!
# Title cards under the operations of a host

While a card with a timer waits, an operation leaves the card and its timer as they are, or lets the
timer fire, or takes the story off the card and discards the timer and the awaited effect.
-/

namespace VisualNovel

/-- Whether an operation asks a timer to fire. -/
def Operation.calls (timer : TitleTimer) : Operation → Bool
  | fireTimer token => timer.token = token
  | tick now => timer.isDue now
  | _ => false

namespace Interpreter

variable {interpreter before front after : Interpreter} {operation : Operation} {timer : TitleTimer}
variable {current : Option StepKind} {armed : Bool} {screen : Screen} {status : Status}
variable {left : List Continuation}

/-- The timer that an operation lets fire. An injected line defers it. -/
def firing? (interpreter : Interpreter) (operation : Operation) : Option TitleTimer :=
  interpreter.timer.filter fun timer => !interpreter.isInterrupted && operation.calls timer

/-- Whether a unit can be loaded. -/
def loads (interpreter : Interpreter) (id : String) : Bool :=
  (interpreter.fetchUnit id).1.isOk

/-- Whether an operation takes the story off a title card, or ends it there. -/
def leavesCard (interpreter : Interpreter) (operation : Operation) : Bool :=
  match operation with
  | .advance => !interpreter.isInterrupted
  | .goto _ => interpreter.story.isSome
  | .endStory => true
  | .reset => true
  | .start id => interpreter.loads id
  | .restart id => interpreter.loads ((id.or interpreter.unitId?).getD "start")
  | .resumeFrom snapshot => interpreter.loads snapshot.unitId
  | .fireTimer _ => (interpreter.firing? operation).any fun timer => !timer.awaitsEffectEnd
  | .tick _ => (interpreter.firing? operation).any fun timer => !timer.awaitsEffectEnd
  | .acknowledgeEffect => interpreter.effectPending && !interpreter.isInterrupted
  | _ => false

/-! ## Cards with a timer -/

/-- A card with a timer waits with nothing left to do. -/
theorem Fits.timed (fits : Fits current true screen status left) :
    left = [] ∧ ∃ durationMs, status = .titles durationMs := by
  cases fits with
  | titles current duration => exact ⟨rfl, _, rfl⟩

/-- Only a card has a timer. -/
theorem Fits.untimed_status (fits : Fits current armed screen status left)
    (other : ∀ durationMs, status ≠ .titles durationMs) : armed = false := by
  cases fits with
  | titles current duration => exact absurd rfl (other _)
  | _ => rfl

/-! ## Going on -/

/-- What becomes of a story that goes on, is moved or is ended. No timer is left that was armed
before. -/
inductive Proceeds (before : Interpreter) : Interpreter → Prop where
  /-- The story has nothing to go on with. -/
  | still : before.isTimed = false → Proceeds before before
  /-- Steps are performed, from an empty screen. -/
  | ran {start : Interpreter} :
      start.Idle → Silent before start → Proceeds before start.run.after
  /-- The next part of the line is shown. -/
  | part {line : Dialogue} {next : Nat} :
      before.isTimed = false → before.currentKind? = some (.dialogue line) →
      before.status = .dialogue → before.continuations = [.dialogueParts next] →
      next < line.parts.length →
      Proceeds before ({ before with continuations := [] }.showPart next).after
  /-- A line of an option is shown. -/
  | acted {offer : Choice} {after : Interpreter} :
      after.currentKind? = some (.choice offer) → Renewed before after → Proceeds before after
  /-- The story is over, halted or forgotten. -/
  | ended {after : Interpreter} :
      after.continuations = [] → after.status.isWaiting = false → Renewed before after →
      Proceeds before after

theorem showPart_renewed {line : Dialogue} {next : Nat} (untimed : interpreter.isTimed = false)
    (current : interpreter.currentKind? = some (.dialogue line))
    (below : next < line.parts.length) :
    Renewed interpreter (interpreter.showPart next).after := by
  obtain ⟨timer, effect⟩ := isTimed_eq_false untimed
  obtain ⟨part, screen, entry, -, -, -, same⟩ := showPart_eq current below
  have standing := (assignOptional_backstage interpreter part.assignment).toStanding
  have renewed := (assignOptional_silent interpreter part.assignment).renewed
    (standing.timer.trans timer) (standing.effectPending.trans effect)
  rw [same]
  exact { renewed with }

theorem Proceeds.renewed (proceeds : Proceeds before after) : Renewed before after := by
  cases proceeds with
  | still untimed =>
      obtain ⟨timer, effect⟩ := isTimed_eq_false untimed
      exact Silent.renewed {} timer effect
  | ran idle silent => exact idle.run silent
  | part untimed current waiting left below =>
      have renewed : Renewed { before with continuations := [] } _ :=
        showPart_renewed untimed current below
      exact Renewed.silent {} renewed
  | acted current renewed => exact renewed
  | ended done resting renewed => exact renewed

theorem stepForward_proceeds (silent : Silent before front) (done : front.continuations = []) :
    Proceeds before front.stepForward.after :=
  .ran ⟨done, rfl, rfl, rfl⟩ { silent with }

theorem redirect_proceeds (silent : Silent before front) (done : front.continuations = [])
    (target : String) : Proceeds before (front.redirect target).after := by
  simp only [redirect]
  split
  · rename_i flow after jumped
    obtain ⟨moved, -⟩ := jump_moved jumped
    exact .ran ⟨moved.continuations.trans done, moved.screen, moved.timer, moved.effectPending⟩
      (silent.trans (jump_silent jumped))
  · rename_i cause after failed
    cases jump_error failed
    have halted : Silent front (front.clearDisplay.haltAtStep cause).after := {}
    exact .ended done rfl ((silent.trans halted).renewed rfl rfl)

/-- The actions of an option arm no timer before the story goes on behind them. -/
theorem runActions_proceeds {offer : Choice} (actions : List ChoiceAction)
    (silent : Silent before front) (idle : front.Idle)
    (current : front.currentKind? = some (.choice offer)) :
    Proceeds before (runActions actions front).after := by
  induction actions generalizing front with
  | nil => exact stepForward_proceeds silent idle.continuations
  | cons action actions ih =>
      cases action with
      | «show» character =>
          have backstage := showCharacter_backstage front character
          refine ih (silent.trans (showCharacter_silent front character)) ?_
            (backstage.currentKind?.trans current)
          exact ⟨backstage.continuations.trans idle.continuations,
            backstage.screen.trans idle.screen, backstage.timer.trans idle.timer,
            backstage.effectPending.trans idle.effectPending⟩
      | hide character => exact ih { silent with } { idle with } current
      | dialogue character text =>
          have said : Silent front (runActions (.dialogue character text :: actions) front).after :=
            {}
          exact .acted current ((silent.trans said).renewed idle.timer idle.effectPending)
      | goto target => exact redirect_proceeds silent idle.continuations target

/-- A line or a card with nothing left to do is left by an advance. -/
theorem advance_done (done : interpreter.continuations = [])
    (waits : interpreter.status = .dialogue ∨
      ∃ durationMs, interpreter.status = .titles durationMs) :
    interpreter.advance = interpreter.stepForward := by
  simp only [advance]
  rcases waits with waiting | ⟨durationMs, waiting⟩
  · rw [done, waiting]
  · rw [done, waiting]

/-- An advance goes on with what is left to do when a line is on screen. -/
theorem advance_left {entry : Continuation} {rest : List Continuation}
    (waiting : interpreter.status = .dialogue) (left : interpreter.continuations = entry :: rest) :
    interpreter.advance = { interpreter with continuations := rest }.resume entry := by
  simp only [advance]
  rw [left, waiting]
  cases entry <;> rfl

/-- Without a line and a card an advance changes nothing. -/
theorem advance_still (done : interpreter.continuations = [])
    (line : interpreter.status ≠ .dialogue)
    (card : ∀ durationMs, interpreter.status ≠ .titles durationMs) :
    interpreter.advance.after = interpreter := by
  simp only [advance]
  rw [done]
  cases status : interpreter.status with
  | dialogue => exact absurd status line
  | titles durationMs => exact absurd status (card durationMs)
  | _ => rfl

/-- An advance that dismisses no injected line leaves no timer behind. -/
theorem Settled.advance_proceeds (settled : before.Settled) (top : before.isInterrupted = false) :
    Proceeds before before.advance.after := by
  have fits := settled.uncovered top
  generalize kind : before.currentKind? = current at fits
  generalize timed : before.isTimed = armed at fits
  generalize before.screen = screen at fits
  generalize waiting : before.status = status at fits
  generalize stack : before.continuations = left at fits
  have still : before.isTimed = false → before.continuations = [] → before.status ≠ .dialogue →
      (∀ durationMs, before.status ≠ .titles durationMs) →
      Proceeds before before.advance.after := by
    intro untimed done line card
    rw [advance_still done line card]
    exact .still untimed
  cases fits with
  | idle resting =>
      refine still timed stack ?_ ?_
      · rintro line
        rw [← waiting, line] at resting
        cases resting
      · rintro durationMs card
        rw [← waiting, card] at resting
        cases resting
  | line current lined =>
      rw [advance_done stack (.inl waiting)]
      exact stepForward_proceeds {} stack
  | parts current lined below =>
      rw [advance_left waiting stack]
      exact .part timed (kind.trans current) waiting stack below
  | actions current member split lined =>
      obtain ⟨timer, effect⟩ := isTimed_eq_false timed
      have idle : { before with continuations := [] }.clearScreen.Idle := ⟨rfl, rfl, timer, effect⟩
      rw [advance_left waiting stack]
      exact runActions_proceeds _ {} idle (kind.trans current)
  | titles current duration =>
      rw [advance_done stack (.inr ⟨_, waiting⟩)]
      exact stepForward_proceeds {} stack
  | input current path => exact still timed stack (by simp [waiting]) (by simp [waiting])
  | choice current labels => exact still timed stack (by simp [waiting]) (by simp [waiting])

/-- A timed card that no injected line covers is left by an advance, whatever becomes of its
timer. -/
theorem Settled.advance_card (settled : before.Settled) (timed : before.isTimed = true)
    (top : before.isInterrupted = false) (timer : Option TitleTimer) (effectPending : Bool) :
    before.continuations = [] ∧
      { before with timer, effectPending }.advance = before.stepForward := by
  have fits := settled.uncovered top
  rw [timed] at fits
  obtain ⟨done, waits⟩ := fits.timed
  have left : { before with timer, effectPending }.advance =
      { before with timer, effectPending }.stepForward := advance_done done (.inr waits)
  exact ⟨done, left⟩

/-! ## Timers that are called -/

theorem firing?_eq_some : interpreter.firing? operation = some timer ↔
    interpreter.timer = some timer ∧ interpreter.isInterrupted = false ∧
      operation.calls timer = true := by
  simp [firing?, Option.filter_eq_some_iff]

/-- Only a call of the timer lets it fire. -/
theorem firing?_eq_none
    (uncalled : ∀ timer, interpreter.timer = some timer → operation.calls timer = false) :
    interpreter.firing? operation = none := by
  cases fires : interpreter.firing? operation with
  | none => rfl
  | some timer =>
      obtain ⟨armed, -, called⟩ := firing?_eq_some.1 fires
      rw [uncalled timer armed] at called
      cases called

/-- A call that lets no timer fire changes nothing. -/
theorem fireTimer_quiet {token : Nat} (quiet : interpreter.firing? (.fireTimer token) = none) :
    interpreter.fireTimer token = interpreter.stay := by
  simp only [fireTimer]
  split
  · rfl
  · rename_i timer armed
    split
    · rfl
    · rename_i called
      simp only [Bool.or_eq_true, decide_eq_true_eq, not_or, Decidable.not_not,
        Bool.not_eq_true] at called
      have fires : interpreter.firing? (.fireTimer token) = some timer :=
        firing?_eq_some.2 ⟨armed, called.2, decide_eq_true called.1⟩
      rw [quiet] at fires
      cases fires

theorem tick_quiet {now : Instant} (quiet : interpreter.firing? (.tick now) = none) :
    interpreter.tick now = interpreter.stay := by
  simp only [tick]
  split
  · rfl
  · rename_i timer armed
    split
    · rename_i due
      apply fireTimer_quiet
      cases fires : interpreter.firing? (.fireTimer timer.token) with
      | none => rfl
      | some other =>
          obtain ⟨-, top, -⟩ := firing?_eq_some.1 fires
          have ticks : interpreter.firing? (.tick now) = some timer :=
            firing?_eq_some.2 ⟨armed, top, due⟩
          rw [quiet] at ticks
          cases ticks
    · rfl

/-- When it is time, the armed timer fires under its number. -/
theorem tick_fires {now : Instant} (fires : interpreter.firing? (.tick now) = some timer) :
    interpreter.tick now = interpreter.fireTimer timer.token ∧
      interpreter.firing? (.fireTimer timer.token) = some timer := by
  obtain ⟨armed, top, due⟩ := firing?_eq_some.1 fires
  refine ⟨?_, firing?_eq_some.2 ⟨armed, top, decide_eq_true rfl⟩⟩
  simp only [tick]
  rw [armed]
  exact if_pos due

/-! ## What becomes of a card -/

/-- The card stays where it is, on screen or under injected lines. -/
structure CardKept (before after : Interpreter) : Prop where
  position : after.position = before.position := by rfl
  base : after.base = before.base := by rfl
  nextToken : after.nextToken = before.nextToken := by rfl
  timer : after.timer = before.timer := by rfl
  effectPending : after.effectPending = true → before.effectPending = true := by
    exact fun awaited => awaited
  effectEnds : after.effectEnds <+: before.effectEnds := by exact List.prefix_rfl

/-- The interpreter after the effect at the end of its card was announced. -/
def announceEffectEnd (interpreter : Interpreter) : Interpreter :=
  { interpreter with
    timer := none
    effectPending := true
    events := interpreter.events ++
      [.titleEffectEnd ((interpreter.screen.title.bind TitleCard.effectEnd).getD "")] }

/-- What an operation makes of a card and its timer. -/
inductive Treated (before : Interpreter) (operation : Operation) : Interpreter → Prop where
  /-- The card stays, and its timer does not fire. -/
  | kept {after : Interpreter} :
      before.leavesCard operation = false → before.firing? operation = none →
      CardKept before after → Treated before operation after
  /-- The timer fires, and the effect at the end of the card is announced. -/
  | announced {timer : TitleTimer} :
      before.firing? operation = some timer → timer.awaitsEffectEnd = true →
      before.leavesCard operation = false → Treated before operation before.announceEffectEnd
  /-- The timer fires, and the story goes on. -/
  | fired {timer : TitleTimer} :
      before.firing? operation = some timer → timer.awaitsEffectEnd = false →
      before.leavesCard operation = true → before.continuations = [] →
      Treated before operation before.stepForward.after
  /-- The story goes on without the timer. -/
  | left {after : Interpreter} :
      (before.isTimed = true → before.leavesCard operation = true) →
      before.firing? operation = none → Proceeds before after → Treated before operation after

theorem Treated.refl (leaves : before.leavesCard operation = false)
    (quiet : before.firing? operation = none) : Treated before operation before :=
  .kept leaves quiet {}

theorem Treated.untimed (untimed : before.isTimed = false)
    (quiet : before.firing? operation = none) (proceeds : Proceeds before after) :
    Treated before operation after := by
  refine .left ?_ quiet proceeds
  intro timed
  rw [untimed] at timed
  cases timed

/-! ## Advances and timers -/

/-- An advance that dismisses an injected line leaves what it covered as it was. -/
theorem advance_covered (covered : before.isInterrupted = true) :
    CardKept before before.advance.after := by
  obtain ⟨screen, status, left, stack⟩ := isInterrupted_eq_true covered
  rw [advance_uncover stack]
  refine { base := ?_ }
  simp only [Interpreter.base]
  rw [stack]
  rfl

theorem Settled.advance_treated (settled : before.Settled) :
    Treated before .advance before.advance.after := by
  have quiet : before.firing? .advance = none := firing?_eq_none fun _ _ => rfl
  have leaves : before.leavesCard .advance = !before.isInterrupted := rfl
  cases top : before.isInterrupted with
  | false =>
      rw [top] at leaves
      exact .left (fun _ => leaves) quiet (settled.advance_proceeds top)
  | true =>
      rw [top] at leaves
      exact .kept leaves quiet (advance_covered top)

theorem Settled.acknowledgeEffect_treated (settled : before.Settled) :
    Treated before .acknowledgeEffect before.acknowledgeEffect.after := by
  have quiet : before.firing? .acknowledgeEffect = none := firing?_eq_none fun _ _ => rfl
  have leaves : before.leavesCard .acknowledgeEffect =
    (before.effectPending && !before.isInterrupted) := rfl
  simp only [acknowledgeEffect]
  split
  · rename_i awaited
    have timed : before.isTimed = true := by simp [isTimed, awaited]
    cases top : before.isInterrupted with
    | false =>
        rw [awaited, top] at leaves
        obtain ⟨done, left⟩ := settled.advance_card timed top before.timer false
        rw [left]
        exact .left (fun _ => leaves) quiet (stepForward_proceeds {} done)
    | true =>
        rw [awaited, top] at leaves
        have kept : CardKept { before with effectPending := false } _ := advance_covered top
        refine .kept leaves quiet { kept with effectPending := ?_ }
        exact fun _ => awaited
  · rename_i idle
    rw [Bool.not_eq_true] at idle
    rw [idle] at leaves
    exact .refl leaves quiet

/-- A timer that fires announces the effect at the end of its card, or lets the story go on. -/
theorem Settled.fireTimer_treated (settled : before.Settled)
    (fires : before.firing? operation = some timer)
    (leaves : before.leavesCard operation = !timer.awaitsEffectEnd) :
    Treated before operation (before.fireTimer timer.token).after := by
  obtain ⟨armed, top, -⟩ := firing?_eq_some.1 fires
  have timed : before.isTimed = true := by simp [isTimed, armed]
  simp only [fireTimer, armed, top, ne_eq, not_true_eq_false, decide_false, Bool.or_self,
    Bool.false_eq_true, ↓reduceIte]
  cases awaits : timer.awaitsEffectEnd with
  | true =>
      rw [awaits] at leaves
      exact .announced fires awaits leaves
  | false =>
      rw [awaits] at leaves
      obtain ⟨done, left⟩ := settled.advance_card timed top none before.effectPending
      rw [if_neg Bool.false_ne_true, left]
      exact .fired fires awaits leaves done

theorem Settled.fire_treated (settled : before.Settled) (token : Nat) :
    Treated before (.fireTimer token) (before.fireTimer token).after := by
  have leaves : before.leavesCard (.fireTimer token) =
    (before.firing? (.fireTimer token)).any fun timer => !timer.awaitsEffectEnd := rfl
  cases fires : before.firing? (.fireTimer token) with
  | none =>
      rw [fires] at leaves
      rw [fireTimer_quiet fires]
      exact .refl leaves fires
  | some timer =>
      rw [fires] at leaves
      obtain ⟨-, -, called⟩ := firing?_eq_some.1 fires
      cases of_decide_eq_true called
      exact settled.fireTimer_treated fires leaves

theorem Settled.tick_treated (settled : before.Settled) (now : Instant) :
    Treated before (.tick now) (before.tick now).after := by
  have leaves : before.leavesCard (.tick now) =
    (before.firing? (.tick now)).any fun timer => !timer.awaitsEffectEnd := rfl
  cases fires : before.firing? (.tick now) with
  | none =>
      rw [fires] at leaves
      rw [tick_quiet fires]
      exact .refl leaves fires
  | some timer =>
      rw [fires] at leaves
      rw [(tick_fires fires).1]
      exact settled.fireTimer_treated fires leaves

/-! ## Moving and answering -/

theorem restart_treated (before : Interpreter) (id : Option String)
    (leaves : before.leavesCard operation = before.loads ((id.or before.unitId?).getD "start"))
    (quiet : before.firing? operation = none) :
    Treated before operation (before.restart id).after := by
  simp only [loads] at leaves
  simp only [restart]
  split
  · rename_i cause after failed
    rw [failed] at leaves
    cases fetchUnit_error failed
    exact .refl leaves quiet
  · rename_i story after fetched
    rw [fetched] at leaves
    obtain ⟨units, -, rfl⟩ := fetchUnit_ok fetched
    exact .left (fun _ => leaves) quiet (.ran ⟨rfl, rfl, rfl, rfl⟩ ⟨rfl, rfl⟩)

theorem resumeFrom_treated (before : Interpreter) (snapshot : Snapshot) :
    Treated before (.resumeFrom snapshot) (before.resumeFrom snapshot).after := by
  have leaves : before.leavesCard (.resumeFrom snapshot) =
    (before.fetchUnit snapshot.unitId).1.isOk := rfl
  have quiet : before.firing? (.resumeFrom snapshot) = none := firing?_eq_none fun _ _ => rfl
  simp only [resumeFrom]
  split
  · rename_i cause after failed
    rw [failed] at leaves
    cases fetchUnit_error failed
    exact .refl leaves quiet
  · rename_i story after fetched
    rw [fetched] at leaves
    obtain ⟨units, -, rfl⟩ := fetchUnit_ok fetched
    exact .left (fun _ => leaves) quiet (.ran ⟨rfl, rfl, rfl, rfl⟩ ⟨rfl, rfl⟩)

theorem goto_treated (before : Interpreter) (target : String) :
    Treated before (.goto target) (before.goto target).after := by
  have quiet : before.firing? (.goto target) = none := firing?_eq_none fun _ _ => rfl
  have leaves : before.leavesCard (.goto target) = before.story.isSome := rfl
  simp only [goto]
  split
  · rename_i absent
    rw [Option.isNone_iff_eq_none] at absent
    rw [absent] at leaves
    exact .refl leaves quiet
  · rename_i present
    rw [Bool.not_eq_true, Option.isNone_eq_false_iff] at present
    rw [present] at leaves
    exact .left (fun _ => leaves) quiet (redirect_proceeds {} rfl target)

theorem Settled.retry_treated (settled : before.Settled) :
    Treated before .retry before.retry.after := by
  have quiet : before.firing? .retry = none := firing?_eq_none fun _ _ => rfl
  simp only [retry]
  split
  · rename_i halted
    have idle := settled.idle (isWaiting_of_isHalted halted)
    exact .untimed idle.isTimed quiet (.ran idle {})
  · exact .refl rfl quiet

theorem Settled.submitInput_treated (settled : before.Settled) (answer : String) :
    Treated before (.submitInput answer) (before.submitInput answer).after := by
  have quiet : before.firing? (.submitInput answer) = none := firing?_eq_none fun _ _ => rfl
  simp only [submitInput]
  split
  · exact .refl rfl quiet
  · rename_i asking
    have asked : before.status = .input := Decidable.not_not.1 asking
    have silent : before.status ≠ .dialogue := by simp [asked]
    have fits := Layered.base settled silent
    have untimed := fits.untimed_status (by simp [asked])
    have done := fits.left_eq_nil silent
    exact .untimed untimed quiet (stepForward_proceeds {} done)

theorem Settled.select_treated (settled : before.Settled) (index : Nat) :
    Treated before (.select index) (before.select index).after := by
  have quiet : before.firing? (.select index) = none := firing?_eq_none fun _ _ => rfl
  simp only [select]
  split
  · exact .refl rfl quiet
  · rename_i offering
    have offered : before.status = .choice := Decidable.not_not.1 offering
    have silent : before.status ≠ .dialogue := by simp [offered]
    have fits := Layered.base settled silent
    have untimed := fits.untimed_status (by simp [offered])
    obtain ⟨timer, effect⟩ := isTimed_eq_false untimed
    have idle : before.clearScreen.Idle := ⟨fits.left_eq_nil silent, rfl, timer, effect⟩
    split
    · rename_i offer current
      split
      · exact .refl rfl quiet
      · rename_i option chosen
        exact .untimed untimed quiet (runActions_proceeds option.actionList {} idle current)
    · exact .refl rfl quiet

/-! ## Events -/

theorem loadCharacters_effectEnds (interpreter : Interpreter) (ids : List String) :
    (interpreter.loadCharacters ids).2.effectEnds = interpreter.effectEnds := by
  obtain ⟨state, same⟩ := loadEach_eq ids interpreter
  simp only [loadCharacters]
  split
  · rename_i cause after failed
    rw [failed] at same
    cases same
    rfl
  · rename_i loaded after succeeded
    rw [succeeded] at same
    cases same
    simp [effectEnds, dropAbsent, emit, StoryEvent.isEffectEnd]

theorem forwardSignals_effectEnds (interpreter : Interpreter) :
    interpreter.forwardSignals.effectEnds = interpreter.effectEnds := by
  simp only [effectEnds, forwardSignals, List.filter_append, List.append_right_eq_self]
  rw [List.filter_eq_nil_iff]
  intro event member
  obtain ⟨signal, -, rfl⟩ := List.mem_map.1 member
  cases signal <;> simp [StoryEvent.isEffectEnd]

theorem fetchUnit_kept (interpreter : Interpreter) (id : String) :
    CardKept interpreter (interpreter.fetchUnit id).2 := by
  obtain ⟨units, same⟩ := fetchUnit_units interpreter id
  rw [same]
  exact {}

theorem loadCharacters_kept (interpreter : Interpreter) (ids : List String) :
    CardKept interpreter (interpreter.loadCharacters ids).2 := by
  have effectEnds := loadCharacters_effectEnds interpreter ids
  obtain ⟨state, visible, events, same⟩ := loadCharacters_eq interpreter ids
  rw [same] at effectEnds ⊢
  exact { effectEnds := effectEnds ▸ List.prefix_rfl }

/-- What each operation makes of a card and its timer. -/
theorem Settled.treated (settled : before.Settled) (operation : Operation) :
    Treated before operation (operation.perform before) := by
  cases operation with
  | loadUnit id => exact .kept rfl (firing?_eq_none fun _ _ => rfl) (fetchUnit_kept before id)
  | loadCharacters ids =>
      exact .kept rfl (firing?_eq_none fun _ _ => rfl) (loadCharacters_kept before ids)
  | start id => exact restart_treated before (some id) rfl (firing?_eq_none fun _ _ => rfl)
  | advance => exact settled.advance_treated
  | goto target => exact goto_treated before target
  | retry => exact settled.retry_treated
  | endStory =>
      have renewed := complete_renewed { before.clearDisplay with continuations := [] }
      exact .left (fun _ => rfl) (firing?_eq_none fun _ _ => rfl)
        (.ended rfl rfl (Renewed.silent {} renewed))
  | restart id => exact restart_treated before id rfl (firing?_eq_none fun _ _ => rfl)
  | reset =>
      have silent : Silent before before.reset := {}
      exact .left (fun _ => rfl) (firing?_eq_none fun _ _ => rfl)
        (.ended rfl rfl (silent.renewed rfl rfl))
  | fireTimer token => exact settled.fire_treated token
  | tick now => exact settled.tick_treated now
  | acknowledgeEffect => exact settled.acknowledgeEffect_treated
  | submitInput answer => exact settled.submitInput_treated answer
  | select index => exact settled.select_treated index
  | inject character text => exact .kept rfl (firing?_eq_none fun _ _ => rfl) {}
  | resumeFrom snapshot => exact resumeFrom_treated before snapshot
  | pauseAudio =>
      have effectEnds := forwardSignals_effectEnds { before with audio := before.audio.pauseAll }
      exact .kept rfl (firing?_eq_none fun _ _ => rfl)
        { effectEnds := effectEnds ▸ List.prefix_rfl }
  | resumeAudio =>
      have effectEnds := forwardSignals_effectEnds { before with audio := before.audio.resumeAll }
      exact .kept rfl (firing?_eq_none fun _ _ => rfl)
        { effectEnds := effectEnds ▸ List.prefix_rfl }
  | drainEvents =>
      exact .kept rfl (firing?_eq_none fun _ _ => rfl) { effectEnds := List.nil_prefix }
  | edit change => exact .kept rfl (firing?_eq_none fun _ _ => rfl) {}
  | pass now => exact .kept rfl (firing?_eq_none fun _ _ => rfl) {}

end Interpreter

end VisualNovel
