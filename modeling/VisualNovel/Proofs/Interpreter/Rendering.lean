import VisualNovel.Proofs.Interpreter.Cards
import VisualNovel.Proofs.Interpreter.Snapshots
import VisualNovel.Proofs.State.Contents

/-!
# The text of a line on screen

The text of a line and each of its parts are rendered in the state in which they are shown, and stay
on screen as they are while the state changes. A resumed story renders all of them in one state. So
a load shows what was on screen when every text still reads as it did.
-/

namespace VisualNovel

namespace Dialogue

variable {line : Dialogue} {state other : StateTree} {states : List StateTree}

/-- The line without its parts, rendered in a state. -/
def opening (line : Dialogue) (state : StateTree) : Screen :=
  let rendered := state.substitute line.text
  match line.character with
  | some id =>
    { Screen.blank with
      speaker := ((state.character? id).bind Character.name?).getD id, dialogue := rendered }
  | none => { Screen.blank with narration := rendered }

/-- The parts, each rendered in a state of its own. -/
def additions (line : Dialogue) (states : List StateTree) : List String :=
  List.zipWith (fun part state => state.substitute part.text) line.parts states

/-- The line on screen: its text rendered in the first state, and a part in each of the others. -/
def screenIn (line : Dialogue) : List StateTree → Screen
  | [] => .blank
  | first :: later =>
    (line.additions later).foldl (fun screen addition =>
      screen.append line.character.isSome addition) (line.opening first)

theorem additions_replicate (line : Dialogue) (shown : Nat) (state : StateTree) :
    line.additions (List.replicate shown state) =
      (line.parts.take shown).map fun part => state.substitute part.text := by
  simp only [additions]
  generalize line.parts = parts
  induction shown generalizing parts with
  | zero => cases parts <;> rfl
  | succ shown ih =>
      cases parts with
      | nil => rfl
      | cons part parts => exact congrArg _ (ih parts)

theorem additions_snoc {part : DialoguePart} (found : line.parts[states.length]? = some part)
    (state : StateTree) :
    line.additions (states ++ [state]) = line.additions states ++ [state.substitute part.text] := by
  simp only [additions]
  generalize line.parts = parts at found
  induction states generalizing parts with
  | nil =>
      cases parts with
      | nil => cases found
      | cons first parts =>
          cases found
          cases parts <;> rfl
  | cons first states ih =>
      cases parts with
      | nil => cases found
      | cons other parts => exact congrArg _ (ih parts found)

/-- The next part is added to the line on screen. -/
theorem screenIn_snoc {part : DialoguePart} {shown : Nat} (moments : states.length = shown + 1)
    (found : line.parts[shown]? = some part) (state : StateTree) :
    line.screenIn (states ++ [state]) =
      (line.screenIn states).append line.character.isSome (state.substitute part.text) := by
  cases states with
  | nil => cases moments
  | cons first later =>
      cases moments
      simp only [screenIn, List.cons_append]
      rw [additions_snoc found, List.foldl_append]
      rfl

theorem screenIn_replicate_eq (line : Dialogue) (shown : Nat) (state : StateTree) :
    line.screenIn (List.replicate (shown + 1) state) =
      ((line.parts.take shown).map fun part => state.substitute part.text).foldl
        (fun screen addition => screen.append line.character.isSome addition)
        (line.opening state) := by
  simp only [List.replicate_succ, screenIn]
  rw [additions_replicate]

/-- The text of a line and its parts, each in a state of its own, read as they do in one state. -/
structure ReadsAlike (line : Dialogue) (state : StateTree) (states : List StateTree) : Prop where
  opening : ∀ first, states[0]? = some first → line.opening first = line.opening state
  parts : ∀ index part other, line.parts[index]? = some part → states[index + 1]? = some other →
    other.substitute part.text = state.substitute part.text

theorem ReadsAlike.contents (same : ∀ other ∈ states, state.SameContents other)
    (line : Dialogue) : line.ReadsAlike state states where
  opening first found := by
    have contents := same first (List.mem_of_getElem? found)
    simp only [Dialogue.opening]
    rw [StateTree.substitute_contents _ contents, contents.eq]
    rfl
  parts index part other _ found :=
    StateTree.substitute_contents part.text (same other (List.mem_of_getElem? found))

theorem additions_alike
    (alike : ∀ (index : Nat) (part : DialoguePart) (other : StateTree),
      line.parts[index]? = some part → states[index]? = some other →
        other.substitute part.text = state.substitute part.text) :
    line.additions states = line.additions (List.replicate states.length state) := by
  apply List.ext_getElem?
  intro index
  simp only [additions, List.getElem?_zipWith, List.getElem?_replicate]
  cases found : line.parts[index]? with
  | none => rfl
  | some part =>
      cases shown : states[index]? with
      | none => rw [if_neg (Nat.not_lt.2 (List.getElem?_eq_none_iff.1 shown))]
      | some other =>
          rw [if_pos (List.getElem?_eq_some_iff.1 shown).1]
          exact congrArg some (alike index part other found shown)

/-- Texts that read the same are shown alike. -/
theorem screenIn_alike (alike : line.ReadsAlike state states) :
    line.screenIn states = line.screenIn (List.replicate states.length state) := by
  cases states with
  | nil => rfl
  | cons first later =>
      simp only [List.length_cons, List.replicate_succ, screenIn]
      rw [alike.opening first rfl, additions_alike alike.parts]

/-- What is left of a line tells how many of its parts are shown. -/
theorem left_injective {shown count : Nat} (within : shown ≤ line.parts.length)
    (bounded : count ≤ line.parts.length) (same : line.left shown = line.left count) :
    shown = count := by
  simp only [left] at same
  split at same
  · split at same
    · cases same
      rfl
    · cases same
  · split at same
    · cases same
    · omega

end Dialogue

namespace Operation

/-- The interpreter behind the first few of some operations. -/
def performFirst (interpreter : Interpreter) (operations : List Operation) (count : Nat) :
    Interpreter :=
  performAll interpreter (operations.take count)

/-- The state of the game behind the first few of some operations. -/
def stateBehind (interpreter : Interpreter) (operations : List Operation) (count : Nat) :
    StateTree :=
  (performFirst interpreter operations count).state

theorem performFirst_succ (interpreter : Interpreter) (operations : List Operation)
    (count : Nat) :
    performFirst interpreter operations (count + 1) = performFirst interpreter operations count ∨
      ∃ operation, performFirst interpreter operations (count + 1) =
        perform (performFirst interpreter operations count) operation := by
  simp only [performFirst, performAll]
  rw [List.take_add_one, List.foldl_append]
  cases operations[count]? with
  | none => exact .inl rfl
  | some operation => exact .inr ⟨operation, rfl⟩

end Operation

namespace Interpreter

variable {content : Content} {settings limits : StorySettings} {line : Dialogue}
variable {interpreter before after start : Interpreter} {operation : Operation}

/-! ## Showing a line -/

theorem showLine_screen (interpreter : Interpreter) (line : Dialogue) :
    (interpreter.showLine line.character line.text).screen = line.opening interpreter.state := by
  simp only [showLine, Dialogue.opening]
  cases line.character <;> rfl

theorem appendParts_screen (interpreter : Interpreter) (speaking : Bool)
    (parts : List DialoguePart) :
    (parts.foldl (fun shown part => shown.appendPart speaking part) interpreter).screen =
      (parts.map fun part => interpreter.state.substitute part.text).foldl
        (fun screen addition => screen.append speaking addition) interpreter.screen := by
  induction parts generalizing interpreter with
  | nil => rfl
  | cons part parts ih => exact ih (interpreter.appendPart speaking part)

/-- A line that is performed again is shown as far as before, rendered in the present state. -/
theorem showDialogue_restoring_screen (restoring : interpreter.restoring = true)
    (line : Dialogue) :
    (interpreter.showDialogue line).2.screen =
      line.screenIn (List.replicate (min interpreter.restoreParts line.parts.length + 1)
        interpreter.state) := by
  rw [line.screenIn_replicate_eq]
  simp only [showDialogue, restoring, ↓reduceIte]
  split
  · rename_i single
    rw [List.isEmpty_iff.1 single, List.take_nil]
    exact showLine_screen _ line
  · have filled := appendParts_screen
      ({ interpreter with restoring := false, restoreParts := 0 }.showLine line.character line.text)
      line.character.isSome (line.parts.take (min interpreter.restoreParts line.parts.length))
    rw [showLine_screen] at filled
    split
    · exact filled
    · exact filled

/-- A line that is performed for the first time is shown without its parts. -/
theorem showDialogue_fresh_screen (fresh : interpreter.restoring = false) (line : Dialogue) :
    (interpreter.showDialogue line).2.screen =
      line.opening (interpreter.assignOptional line.assignment).state := by
  simp only [showDialogue, fresh, Bool.false_eq_true, ↓reduceIte, assignOptional_settled]
  split
  · exact showLine_screen _ line
  · split
    · exact showLine_screen _ line
    · exact showLine_screen _ line

/-- A line is put on screen with all that is shown of it rendered in one state. -/
theorem showDialogue_screen (interpreter : Interpreter) (line : Dialogue) :
    ∃ shown, shown ≤ line.parts.length ∧
      (interpreter.showDialogue line).2.continuations =
        line.left shown ++ interpreter.continuations ∧
      (interpreter.showDialogue line).2.screen =
        line.screenIn (List.replicate (shown + 1) (interpreter.showDialogue line).2.state) := by
  cases restoring : interpreter.restoring with
  | true =>
      obtain ⟨screen, -, same⟩ := showDialogue_restoring restoring line
      refine ⟨min interpreter.restoreParts line.parts.length, Nat.min_le_right _ _, ?_, ?_⟩
      · rw [same]
      · rw [showDialogue_restoring_screen restoring line, same]
  | false =>
      obtain ⟨screen, entry, -, -, same⟩ := showDialogue_fresh restoring line
      refine ⟨0, Nat.zero_le _, ?_, ?_⟩
      · rw [same]
      · rw [showDialogue_fresh_screen restoring line, line.screenIn_replicate_eq, same]
        rfl

/-- The next part is added to the line on screen, rendered in the present state. -/
theorem showPart_screen {next : Nat} (current : interpreter.currentKind? = some (.dialogue line))
    (below : next < line.parts.length) :
    ∃ part, line.parts[next]? = some part ∧
      (interpreter.showPart next).after.screen =
        interpreter.screen.append line.character.isSome
          ((interpreter.showPart next).after.state.substitute part.text) := by
  change interpreter.currentStep?.map Step.kind = _ at current
  have found : line.parts[next]? = some line.parts[next] := List.getElem?_eq_getElem below
  have backstage := assignOptional_backstage interpreter line.parts[next].assignment
  refine ⟨line.parts[next], found, ?_⟩
  rw [← backstage.screen]
  simp only [showPart, current, found]
  split <;> rfl

/-- A part stays at the step of its line, and leaves the next one. -/
theorem showPart_leaves {next : Nat} (current : interpreter.currentKind? = some (.dialogue line))
    (done : interpreter.continuations = []) (below : next < line.parts.length) :
    (interpreter.showPart next).after.currentKind? = some (.dialogue line) ∧
      (interpreter.showPart next).after.status = .dialogue ∧
      (interpreter.showPart next).after.continuations = line.left (next + 1) := by
  obtain ⟨part, screen, entry, -, -, -, same⟩ := showPart_eq current below
  have standing := (assignOptional_backstage interpreter part.assignment).toStanding
  rw [same]
  refine ⟨standing.currentKind?.trans current, rfl, ?_⟩
  change line.left (next + 1) ++ interpreter.continuations = _
  rw [done, List.append_nil]

/-! ## The line of the base -/

/-- The base shows a line with some of its parts, its text and each part in a state of its own. -/
structure Shows (interpreter : Interpreter) (line : Dialogue) (shown : Nat)
    (states : List StateTree) : Prop where
  within : shown ≤ line.parts.length
  moments : states.length = shown + 1
  left : interpreter.base.left = line.left shown
  screen : interpreter.base.screen = line.screenIn states

/-- The line of the current step, when it is on screen or under injected lines. -/
def baseLine? (interpreter : Interpreter) : Option Dialogue :=
  match interpreter.base.status, interpreter.currentKind? with
  | .dialogue, some (.dialogue line) => some line
  | _, _ => none

theorem baseLine?_eq_some : interpreter.baseLine? = some line ↔
    interpreter.base.status = .dialogue ∧ interpreter.currentKind? = some (.dialogue line) := by
  simp only [baseLine?]
  constructor
  · intro shown
    split at shown
    · rename_i waits current
      cases shown
      exact ⟨waits, current⟩
    · cases shown
  · rintro ⟨waits, current⟩
    rw [waits, current]

theorem under_left (line : Dialogue) (shown : Nat) (screen : Screen) (status : Status) :
    Display.under screen status (line.left shown) = ⟨screen, status, line.left shown⟩ := by
  simp only [Dialogue.left]
  split <;> rfl

/-- A story that does not wait shows no line. -/
theorem baseLine?_resting (done : interpreter.continuations = [])
    (resting : interpreter.status.isWaiting = false) : interpreter.baseLine? = none := by
  cases shown : interpreter.baseLine? with
  | none => rfl
  | some line =>
      have waits := (baseLine?_eq_some.1 shown).1
      simp only [base] at waits
      rw [done] at waits
      rw [show interpreter.status = .dialogue from waits] at resting
      cases resting

theorem baseLine?_kept (position : after.position = before.position)
    (base : after.base = before.base) : after.baseLine? = before.baseLine? := by
  simp only [baseLine?]
  rw [base, currentKind?_position position]

/-- A step that waits with a line on screen shows it in the present state. -/
theorem Pause.shows {status : Status} {step : Step} (pause : Pause interpreter step status after)
    (done : interpreter.continuations = [])
    (found : interpreter.currentKind? = some step.kind)
    (line? : (after.wait status).after.baseLine? = some line) :
    ∃ shown,
      (after.wait status).after.Shows line shown (List.replicate (shown + 1) after.state) := by
  have current : after.currentKind? = some (.dialogue line) := (baseLine?_eq_some.1 line?).2
  rw [currentKind?_position pause.keeps.position, found] at current
  have kind := Option.some.inj current
  cases pause with
  | dialogue same =>
      rw [kind] at same
      cases same
      obtain ⟨shown, within, left, screen⟩ := showDialogue_screen interpreter line
      rw [done, List.append_nil] at left
      have base : ((interpreter.showDialogue line).2.wait .dialogue).after.base =
          ⟨(interpreter.showDialogue line).2.screen, .dialogue, line.left shown⟩ := by
        rw [← under_left, ← left]
        rfl
      exact ⟨shown, within, List.length_replicate, congrArg Display.left base,
        (congrArg Display.screen base).trans screen⟩
  | titles same => rw [kind] at same; cases same
  | input same => rw [kind] at same; cases same
  | choice same => rw [kind] at same; cases same

/-- A run that ends with a line on screen shows it in the present state. -/
theorem run_shows (idle : start.Idle) (line? : start.run.after.baseLine? = some line) :
    ∃ shown,
      start.run.after.Shows line shown (List.replicate (shown + 1) start.run.after.state) := by
  revert line?
  apply run_induction (fun _ reached => reached.Idle) fun outcome =>
    outcome.after.baseLine? = some line →
      ∃ shown, outcome.after.Shows line shown (List.replicate (shown + 1) outcome.after.state)
  · intro dispatched reached next after idle round
    exact idle.round round
  · intro dispatched reached outcome idle ending line?
    have resting : outcome.after.continuations = [] → outcome.after.status.isWaiting = false →
        ∃ shown,
          outcome.after.Shows line shown (List.replicate (shown + 1) outcome.after.state) := by
      intro done resting
      rw [baseLine?_resting done resting] at line?
      cases line?
    cases ending with
    | completed => exact resting rfl rfl
    | limited => exact resting idle.continuations rfl
    | paused current found below pause =>
        refine pause.shows idle.continuations ?_ line?
        simp only [currentKind?, currentStep?]
        rw [current, Option.bind_some, found]
        rfl
    | failed same =>
        rcases same with rfl | rfl | rfl
        · exact resting idle.continuations rfl
        · exact resting idle.continuations rfl
        · exact resting idle.continuations rfl
  · exact idle

/-! ## The moments at which a line was shown -/

/-- The line of the base was shown in states of the game at earlier moments, in order. -/
def Rendered (stateAt : Nat → StateTree) (now : Nat) (interpreter : Interpreter) : Prop :=
  ∀ line, interpreter.baseLine? = some line → ∃ (shown : Nat) (times : List Nat),
    times.Pairwise (· ≤ ·) ∧ (∀ time ∈ times, time ≤ now) ∧
      interpreter.Shows line shown (times.map stateAt)

variable {stateAt : Nat → StateTree} {now : Nat}

theorem Rendered.later (rendered : Rendered stateAt now before)
    (line? : after.baseLine? = before.baseLine?) (base : after.base = before.base) :
    Rendered stateAt (now + 1) after := by
  intro line current
  rw [line?] at current
  obtain ⟨shown, times, ordered, past, shows⟩ := rendered line current
  refine ⟨shown, times, ordered, fun time member => Nat.le_succ_of_le (past time member),
    shows.within, shows.moments, ?_, ?_⟩
  · rw [base]
    exact shows.left
  · rw [base]
    exact shows.screen

/-- A run renders what it shows at one moment. -/
theorem run_rendered (idle : start.Idle) (present : stateAt now = start.run.after.state) :
    Rendered stateAt now start.run.after := by
  intro line line?
  obtain ⟨shown, shows⟩ := run_shows idle line?
  refine ⟨shown, List.replicate (shown + 1) now, ?_, ?_, ?_⟩
  · exact List.pairwise_replicate.2 (.inr (Nat.le_refl now))
  · intro time member
    exact Nat.le_of_eq (List.eq_of_mem_replicate member)
  · rw [List.map_replicate, present]
    exact shows

/-- A part is rendered at the moment at which it joins the line on screen. -/
theorem Rendered.part {next : Nat} (rendered : Rendered stateAt now before)
    (current : before.currentKind? = some (.dialogue line)) (waits : before.status = .dialogue)
    (left : before.continuations = [.dialogueParts next]) (below : next < line.parts.length)
    (present : stateAt (now + 1) =
      ({ before with continuations := [] }.showPart next).after.state) :
    Rendered stateAt (now + 1) ({ before with continuations := [] }.showPart next).after := by
  have base : before.base = ⟨before.screen, .dialogue, [.dialogueParts next]⟩ := by
    simp only [Interpreter.base]
    rw [left, waits]
    rfl
  have line? : before.baseLine? = some line :=
    baseLine?_eq_some.2 ⟨congrArg Display.status base, current⟩
  obtain ⟨shown, times, ordered, past, shows⟩ := rendered line line?
  have same : shown = next := by
    apply Dialogue.left_injective shows.within (Nat.le_of_lt below)
    rw [← shows.left, base]
    simp [Dialogue.left, below]
  subst same
  have popped : { before with continuations := [] }.currentKind? = some (.dialogue line) := current
  obtain ⟨part, found, screen⟩ := showPart_screen popped below
  obtain ⟨stays, waiting, leaves⟩ := showPart_leaves popped rfl below
  generalize ({ before with continuations := [] }.showPart shown).after = after at *
  have shown_base : after.base = ⟨after.screen, .dialogue, line.left (shown + 1)⟩ := by
    simp only [Interpreter.base]
    rw [leaves, waiting]
    exact under_left ..
  intro other other?
  have kinds := (baseLine?_eq_some.1 other?).2
  rw [stays] at kinds
  cases kinds
  refine ⟨shown + 1, times ++ [now + 1], ?_, ?_, ?_⟩
  · refine List.pairwise_append.2 ⟨ordered, List.pairwise_singleton .., ?_⟩
    intro time member last last_member
    rw [List.mem_singleton.1 last_member]
    exact Nat.le_succ_of_le (past time member)
  · intro time member
    rcases List.mem_append.1 member with earlier | last
    · exact Nat.le_succ_of_le (past time earlier)
    · exact Nat.le_of_eq (List.mem_singleton.1 last)
  · rw [List.map_append, List.map_singleton, present]
    refine ⟨below, ?_, ?_, ?_⟩
    · simp [← shows.moments]
    · rw [shown_base]
    · have earlier := shows.screen
      rw [base] at earlier
      rw [shown_base, Dialogue.screenIn_snoc shows.moments found, ← earlier]
      exact screen

/-- Every operation leaves the line of the base as it is, adds a part to it, or shows another
one. -/
theorem Rendered.treated (rendered : Rendered stateAt now before)
    (treated : Treated before operation after) (present : stateAt (now + 1) = after.state) :
    Rendered stateAt (now + 1) after := by
  cases treated with
  | kept leaves quiet kept =>
      exact rendered.later (baseLine?_kept kept.position kept.base) kept.base
  | announced fires awaits leaves => exact rendered.later rfl rfl
  | fired fires awaits leaves done =>
      have idle : Idle { before.clearDisplay with restoring := false, step := before.step + 1 } :=
        ⟨done, rfl, rfl, rfl⟩
      exact run_rendered idle present
  | left leaves quiet proceeds =>
      cases proceeds with
      | still untimed => exact rendered.later rfl rfl
      | ran idle silent => exact run_rendered idle present
      | part untimed current waits left below =>
          exact rendered.part current waits left below present
      | acted current renewed =>
          intro line line?
          rw [(baseLine?_eq_some.1 line?).2] at current
          cases current
      | ended done resting renewed =>
          intro line line?
          rw [baseLine?_resting done resting] at line?
          cases line?

/-! ## Reachable interpreters -/

open Operation

/-- What a line on screen shows was rendered behind operations of the past, one after another. -/
theorem performFirst_rendered (content : Content) (settings : StorySettings)
    (operations : List Operation) (now : Nat) :
    Rendered (stateBehind (.new content settings) operations) now
      (performFirst (.new content settings) operations now) := by
  induction now with
  | zero =>
      intro line line?
      rw [baseLine?_resting rfl rfl] at line?
      cases line?
  | succ now ih =>
      have settled : (performFirst (.new content settings) operations now).Settled :=
        performAll_settled content settings _
      rcases performFirst_succ (.new content settings) operations now with same | ⟨operation, next⟩
      · rw [same]
        exact ih.later rfl rfl
      · have present : stateBehind (.new content settings) operations (now + 1) =
            (operation.perform (performFirst (.new content settings) operations now)).state :=
          congrArg Interpreter.state next
        rw [next]
        exact ih.treated (settled.treated operation) present

/-- The number of shown parts that a snapshot holds. -/
theorem shownParts?_line {shown : Nat} (current : interpreter.currentKind? = some (.dialogue line))
    (left : interpreter.continuations = line.left shown) (within : shown ≤ line.parts.length) :
    min (interpreter.shownParts?.getD 0) line.parts.length = shown := by
  change interpreter.currentStep?.map Step.kind = _ at current
  simp only [shownParts?]
  rw [current, left]
  dsimp only
  split
  · rename_i single
    rw [List.isEmpty_iff.1 single] at within ⊢
    exact (Nat.le_zero.1 within).symm
  · simp only [Dialogue.left, Option.getD_some]
    split
    · exact Nat.min_eq_left within
    · rename_i all
      exact (Nat.min_self _).trans (Nat.le_antisymm (Nat.not_lt.1 all) within)

/-- A resumed story shows as much of its line as before, rendered in the state it was given. -/
theorem Sound.resumeFrom_line {other : Interpreter} {snapshot : Snapshot} {shown : Nat}
    (sound : interpreter.Sound content settings) (target : other.Sound content limits)
    (room : 0 < limits.maxAutoSteps) (current : interpreter.currentKind? = some (.dialogue line))
    (left : interpreter.continuations = line.left shown) (within : shown ≤ line.parts.length)
    (taken : interpreter.snapshot = .ok snapshot) :
    (other.resumeFrom snapshot).result = .ok .dialogue ∧
      (other.resumeFrom snapshot).after.continuations = line.left shown ∧
      (other.resumeFrom snapshot).after.screen =
        line.screenIn (List.replicate (shown + 1) other.state.touch) := by
  obtain ⟨step, placed, kind, replaced, resumes⟩ :=
    sound.resumeFrom_replaced target room current taken
  have parts : min placed.restoreParts line.parts.length = shown := by
    rw [replaced.parts]
    exact shownParts?_line current left within
  have waiting : placed.dispatch step =
      (.ok (.suspend .dialogue), (placed.showDialogue line).2) := by
    simp only [dispatch]
    rw [kind]
    exact showDialogue_eq placed line
  rw [resumes waiting]
  refine ⟨rfl, ?_, ?_⟩
  · obtain ⟨screen, -, same⟩ := showDialogue_restoring replaced.restoring line
    change (placed.showDialogue line).2.continuations = _
    rw [same, parts, replaced.continuations]
    exact List.append_nil _
  · have screen := showDialogue_restoring_screen replaced.restoring line
    rw [parts, replaced.state] at screen
    exact screen

/-- A line on screen was rendered at earlier moments, one after another, and a resume renders it
again in the state of the present. So a load shows what was on screen when every text still reads as
it did when it was shown, and as many parts are left in every case. -/
theorem performAll_rendering (content : Content) (settings limits : StorySettings)
    (operations : List Operation) (line : Dialogue) (other : Interpreter) (snapshot : Snapshot)
    (current : (performAll (.new content settings) operations).currentKind? = some (.dialogue line))
    (waits : (performAll (.new content settings) operations).status = .dialogue)
    (top : (performAll (.new content settings) operations).isInterrupted = false)
    (taken : (performAll (.new content settings) operations).snapshot = .ok snapshot)
    (target : other.Sound content limits) (room : 0 < limits.maxAutoSteps)
    (same : (performAll (.new content settings) operations).state.SameContents other.state) :
    ∃ (shown : Nat) (times : List Nat),
      times.length = shown + 1 ∧ times.Pairwise (· ≤ ·) ∧
      (∀ time ∈ times, time ≤ operations.length) ∧
      (performAll (.new content settings) operations).continuations = line.left shown ∧
      (performAll (.new content settings) operations).screen =
        line.screenIn (times.map (stateBehind (.new content settings) operations)) ∧
      (other.resumeFrom snapshot).result = .ok .dialogue ∧
      (other.resumeFrom snapshot).after.continuations = line.left shown ∧
      (other.resumeFrom snapshot).after.screen = line.screenIn (List.replicate (shown + 1)
        (performAll (.new content settings) operations).state) ∧
      (line.ReadsAlike (performAll (.new content settings) operations).state
          (times.map (stateBehind (.new content settings) operations)) →
        (other.resumeFrom snapshot).after.screen =
          (performAll (.new content settings) operations).screen) := by
  have rendered := performFirst_rendered content settings operations operations.length
  have whole : performFirst (.new content settings) operations operations.length =
      performAll (.new content settings) operations := by
    simp only [performFirst]
    rw [List.take_length]
  have sound := performAll_sound content settings operations
  rw [whole] at rendered
  generalize stateBehind (.new content settings) operations = stateAt at rendered ⊢
  generalize performAll (.new content settings) operations = interpreter at *
  have base := base_uncovered top
  have line? : interpreter.baseLine? = some line := by
    refine baseLine?_eq_some.2 ⟨?_, current⟩
    rw [base]
    exact waits
  obtain ⟨shown, times, ordered, past, shows⟩ := rendered line line?
  have moments := shows.moments
  have left := shows.left
  have screen := shows.screen
  rw [base] at left screen
  rw [List.length_map] at moments
  obtain ⟨result, continuations, resumed⟩ :=
    sound.resumeFrom_line target room current left shows.within taken
  have contents : interpreter.state.SameContents other.state.touch := same
  have again : (other.resumeFrom snapshot).after.screen =
      line.screenIn (List.replicate (shown + 1) interpreter.state) := by
    have alike : line.ReadsAlike interpreter.state
        (List.replicate (shown + 1) other.state.touch) := by
      refine .contents (fun state member => ?_) line
      rw [List.eq_of_mem_replicate member]
      exact contents
    rw [resumed, Dialogue.screenIn_alike alike, List.length_replicate]
  refine ⟨shown, times, moments, ordered, past, left, screen, result, continuations, again, ?_⟩
  intro alike
  rw [again, show interpreter.screen = _ from screen, Dialogue.screenIn_alike alike,
    List.length_map, moments]

/-- A line that tells of the sky, with a part that changes it. -/
def skyLine : Dialogue :=
  ⟨none, "The sky is {global.sky}.", none, [⟨" It clears.", some "global.sky = 'blue'"⟩]⟩

/-- Content whose only unit shows the sky. -/
def skyContent : Content :=
  (Library.empty.addUnit ⟨"start", [⟨none, .assign "global.sky = 'grey'"⟩,
    ⟨none, .dialogue skyLine⟩]⟩).toContent

/-- A story under the sky, with the whole line on screen. -/
def skyInterpreter : Interpreter :=
  performAll (.new skyContent .standard) [.start "start", .advance]

/-- The snapshot of the story under the sky. -/
def skySnapshot : Snapshot where
  unitId := "start"
  step := 1
  callStack := []
  visible := []
  scene := none
  history := some skyInterpreter.history.entries
  audio := []
  dialoguePart := some 1

/-- The beginning of the line reads otherwise behind a load: its part has changed the sky. -/
theorem performAll_rendering_sky :
    skyInterpreter.snapshot = .ok skySnapshot ∧
      (skyInterpreter.resumeFrom skySnapshot).result = .ok .dialogue ∧
      (skyInterpreter.resumeFrom skySnapshot).after.continuations =
        skyInterpreter.continuations ∧
      skyInterpreter.screen.narration = "The sky is grey. It clears." ∧
      (skyInterpreter.resumeFrom skySnapshot).after.screen.narration =
        "The sky is blue. It clears." := by
  obtain ⟨shown, times, -, -, -, left, -, result, continuations, -⟩ :=
    performAll_rendering skyContent .standard .standard [.start "start", .advance] skyLine
      skyInterpreter skySnapshot rfl rfl rfl rfl (performAll_sound skyContent .standard _)
      (by decide) (.refl _)
  exact ⟨rfl, result, continuations.trans left.symm, by decide +kernel, by decide +kernel⟩

end Interpreter

end VisualNovel
