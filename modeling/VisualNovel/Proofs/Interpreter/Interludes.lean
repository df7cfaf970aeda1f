import VisualNovel.Proofs.Interpreter.Choosing
import VisualNovel.Proofs.Interpreter.Reading

/-!
# Lines over a story

A host may put lines over what a story shows, one over another, and each advance takes the line on
top away. Timers may fire meanwhile, without effect. Behind the last of the lines the story is as it
was in front of the first of them, and the lines are in the log.
-/

namespace VisualNovel

/-- What happens while lines lie over a story. -/
inductive Interlude where
  /-- A line is put over what is on screen. -/
  | inject (character : Option String) (text : String)
  /-- The player goes on, which takes the line on top away. -/
  | dismiss
  /-- Time passes. -/
  | tick (now : Instant)
  /-- A timer fires. -/
  | fire (token : Nat)

namespace Interlude

variable {covered : Bool} {depth next : Nat} {first : List Interlude}

/-- The operation that makes it happen. -/
def operation : Interlude → Operation
  | inject character text => .inject character text
  | dismiss => .advance
  | tick now => .tick now
  | fire token => .fireTimer token

/-- The entry of the log for a line over a story. -/
def record? (start : Interpreter) : Interlude → Option HistoryEntry
  | inject character text => some (start.spoken character text)
  | _ => none

/-- Timers fire only while a line is on top, which may have been there before. -/
def wait? (covered : Bool) (depth : Nat) : Option Nat :=
  if covered || 0 < depth then some depth else none

/-- The number of lines over a story behind an interlude. Only a line that was put there is taken
away. -/
def step? (covered : Bool) : Nat → Interlude → Option Nat
  | depth, inject _ _ => some (depth + 1)
  | 0, dismiss => none
  | depth + 1, dismiss => some depth
  | depth, tick _ => wait? covered depth
  | depth, fire _ => wait? covered depth

/-- The number of lines over a story behind some interludes. -/
def depth? (covered : Bool) (depth : Nat) (interludes : List Interlude) : Option Nat :=
  interludes.foldlM (step? covered) depth

/-! ## Lines that are still there -/

theorem depth?_append (covered : Bool) (depth : Nat) (first second : List Interlude) :
    depth? covered depth (first ++ second) =
      (depth? covered depth first).bind fun between => depth? covered between second :=
  List.foldlM_append ..

theorem depth?_cons (covered : Bool) (depth : Nat) (event : Interlude) (later : List Interlude) :
    depth? covered depth (event :: later) =
      (step? covered depth event).bind fun between => depth? covered between later :=
  List.foldlM_cons ..

theorem depth?_concat (covered : Bool) (depth : Nat) (first : List Interlude) (last : Interlude) :
    depth? covered depth (first ++ [last]) =
      (depth? covered depth first).bind fun between => step? covered between last := by
  rw [depth?_append]
  apply congrArg (Option.bind _)
  funext between
  exact bind_pure (step? covered between last)

theorem wait?_eq_some (waited : wait? covered depth = some next) :
    next = depth ∧ (covered || decide (0 < depth)) = true := by
  simp only [wait?] at waited
  split at waited
  · rename_i top
    cases waited
    exact ⟨rfl, top⟩
  · cases waited

/-- One more line under all of them changes nothing. -/
theorem step?_succ {event : Interlude} (stepped : step? true depth event = some next) :
    step? true (depth + 1) event = some (next + 1) := by
  cases event with
  | dismiss =>
      cases depth with
      | zero => cases stepped
      | succ under =>
          cases stepped
          rfl
  | inject | tick | fire =>
      cases stepped
      rfl

theorem depth?_succ {interludes : List Interlude}
    (reached : depth? true depth interludes = some next) :
    depth? true (depth + 1) interludes = some (next + 1) := by
  induction interludes generalizing depth with
  | nil =>
      cases reached
      rfl
  | cons event later ih =>
      rw [depth?_cons] at reached ⊢
      obtain ⟨between, stepped, reached⟩ := Option.bind_eq_some_iff.1 reached
      rw [step?_succ stepped]
      exact ih reached

/-- A line that is taken away again leaves those under it where they are. -/
theorem depth?_closed {outer inner : List Interlude} (character : Option String) (text : String)
    (shut : depth? true 0 outer = some 0) (closed : depth? true 0 inner = some 0) :
    depth? true 0 (outer ++ inject character text :: inner ++ [dismiss]) = some 0 := by
  rw [depth?_concat, depth?_append, shut, Option.bind_some, depth?_cons]
  change ((depth? true 1 inner).bind _) = _
  rw [depth?_succ closed]
  rfl

/-- The line on top was put there, and every line over it has been taken away again. -/
theorem exists_inject (still : depth? covered 0 first = some (depth + 1)) :
    ∃ earlier character text inner, first = earlier ++ inject character text :: inner ∧
      depth? covered 0 earlier = some depth ∧ depth? true 0 inner = some 0 := by
  -- A line that was taken away last lies over another one, which an earlier part of the list put
  -- there. So the induction is on the length, and not on the list.
  induction length : first.length using Nat.strongRecOn generalizing first depth with
  | ind size ih =>
      subst length
      rcases List.eq_nil_or_concat first with rfl | ⟨shorter, last, rfl⟩
      · cases still
      · rw [List.concat_eq_append] at ih ⊢
        rw [List.concat_eq_append, depth?_concat] at still
        obtain ⟨between, reached, stepped⟩ := Option.bind_eq_some_iff.1 still
        have smaller : shorter.length < (shorter ++ [last]).length := by simp
        have passes : between = depth + 1 → step? true 0 last = some 0 →
            ∃ earlier character text inner,
              shorter ++ [last] = earlier ++ inject character text :: inner ∧
              depth? covered 0 earlier = some depth ∧ depth? true 0 inner = some 0 := by
          intro same harmless
          rw [same] at reached
          obtain ⟨earlier, character, text, inner, rfl, below, closed⟩ := ih _ smaller reached rfl
          refine ⟨earlier, character, text, inner ++ [last], by simp, below, ?_⟩
          rw [depth?_concat, closed]
          exact harmless
        cases last with
        | inject character text =>
            cases stepped
            exact ⟨shorter, character, text, [], rfl, reached, rfl⟩
        | dismiss =>
            cases between with
            | zero => cases stepped
            | succ under =>
                cases stepped
                obtain ⟨before, character, text, inner, rfl, below, closed⟩ :=
                  ih _ smaller reached rfl
                have shorter : before.length <
                    (before ++ inject character text :: inner ++ [dismiss]).length := by
                  simp only [List.length_append, List.length_cons]
                  omega
                obtain ⟨earlier, other, words, outer, rfl, bottom, shut⟩ := ih _ shorter below rfl
                exact ⟨earlier, other, words, outer ++ inject character text :: inner ++ [dismiss],
                  by simp, bottom, depth?_closed character text shut closed⟩
        | tick now => exact passes (wait?_eq_some stepped).1.symm rfl
        | fire token => exact passes (wait?_eq_some stepped).1.symm rfl

end Interlude

namespace Interpreter

variable {start interpreter : Interpreter} {depth next : Nat} {event : Interlude}
variable {interludes : List Interlude}

/-! ## What lies under the lines -/

/-- A story with a number of lines over it, which differs from the bare one in its log. -/
inductive Over (start : Interpreter) : Nat → Interpreter → Prop where
  | bare (history : History) : Over start 0 { start with history }
  | line {depth : Nat} {under : Interpreter} (screen : Screen) (history : History) :
      Over start depth under →
      Over start (depth + 1) { under with
        screen, history, status := .dialogue
        continuations := .interjection under.screen under.status :: under.continuations }

theorem Over.log (above : Over start depth interpreter) (history : History) :
    Over start depth { interpreter with history } := by
  cases above with
  | bare => exact .bare history
  | line screen _ above => exact .line screen history above

/-- A line is said alike however many lines lie over the story. -/
theorem Over.spoken (above : Over start depth interpreter) (character : Option String)
    (text : String) : interpreter.spoken character text = start.spoken character text := by
  induction above with
  | bare => rfl
  | line screen history above ih => exact ih

theorem Over.isInterrupted (above : Over start depth interpreter)
    (top : (start.isInterrupted || decide (0 < depth)) = true) :
    interpreter.isInterrupted = true := by
  cases above with
  | bare =>
      rw [Bool.or_eq_true] at top
      exact top.resolve_right (by simp)
  | line => rfl

/-- A line that is injected covers what is on screen, and joins the log. -/
theorem inject_eq (interpreter : Interpreter) (character : Option String) (text : String) :
    (interpreter.inject character text).after = { interpreter with
      screen := (interpreter.showLine character text).screen
      history := interpreter.history.push (interpreter.spoken character text)
      status := .dialogue
      continuations :=
        .interjection interpreter.screen interpreter.status :: interpreter.continuations } := by
  cases character <;> rfl

/-- An injected line defers every timer. -/
theorem fireTimer_interrupted (top : interpreter.isInterrupted = true) (token : Nat) :
    interpreter.fireTimer token = interpreter.stay := by
  simp only [fireTimer]
  rw [top]
  cases interpreter.timer with
  | none => rfl
  | some timer => exact if_pos (Bool.or_true _)

theorem tick_interrupted (top : interpreter.isInterrupted = true) (now : Instant) :
    interpreter.tick now = interpreter.stay := by
  simp only [tick]
  cases interpreter.timer with
  | none => rfl
  | some timer =>
      dsimp only
      split
      · exact fireTimer_interrupted top timer.token
      · rfl

/-- An interlude changes the number of lines over the story, and the log by the line it puts
there. -/
theorem Over.perform (above : Over start depth interpreter)
    (stepped : event.step? start.isInterrupted depth = some next) :
    Over start next (event.operation.perform interpreter) ∧
      (event.operation.perform interpreter).history =
        (event.record? start).toList.foldl History.push interpreter.history := by
  have waits : ∀ outcome : Outcome, outcome = interpreter.stay → next = depth →
      Over start next outcome.after ∧ outcome.after.history = interpreter.history := by
    intro outcome stays same
    rw [stays, same]
    exact ⟨above, rfl⟩
  cases event with
  | inject character text =>
      cases stepped
      change Over start _ (interpreter.inject character text).after ∧
        (interpreter.inject character text).after.history = _
      rw [inject_eq]
      constructor
      · exact .line _ _ above
      · exact congrArg interpreter.history.push (above.spoken character text)
  | dismiss =>
      cases above with
      | bare => cases stepped
      | line screen history above =>
          cases stepped
          exact ⟨above.log history, rfl⟩
  | tick now =>
      obtain ⟨same, top⟩ := Interlude.wait?_eq_some stepped
      exact waits _ (tick_interrupted (above.isInterrupted top) now) same
  | fire token =>
      obtain ⟨same, top⟩ := Interlude.wait?_eq_some stepped
      exact waits _ (fireTimer_interrupted (above.isInterrupted top) token) same

/-- Interludes leave as many lines over the story as they do not take away, and add to the log the
lines they put there. -/
theorem Over.performAll (above : Over start depth interpreter)
    (reached : Interlude.depth? start.isInterrupted depth interludes = some next) :
    Over start next (Operation.performAll interpreter (interludes.map Interlude.operation)) ∧
      (Operation.performAll interpreter (interludes.map Interlude.operation)).history =
        (interludes.filterMap (Interlude.record? start)).foldl History.push interpreter.history := by
  induction interludes generalizing interpreter depth with
  | nil =>
      cases reached
      exact ⟨above, rfl⟩
  | cons event later ih =>
      rw [Interlude.depth?_cons] at reached
      obtain ⟨between, stepped, reached⟩ := Option.bind_eq_some_iff.1 reached
      obtain ⟨performed, pushed⟩ := above.perform stepped
      obtain ⟨rest, log⟩ := ih performed reached
      refine ⟨rest, ?_⟩
      rw [pushed] at log
      rw [show (event :: later).filterMap (Interlude.record? start) =
        (event.record? start).toList ++ later.filterMap (Interlude.record? start) by
          rw [List.filterMap_cons]
          cases event.record? start <;> rfl,
        List.foldl_append]
      exact log

theorem Over.eq (above : Over start 0 interpreter) :
    interpreter = { start with history := interpreter.history } := by
  cases above
  rfl

/-- Behind a line and interludes that leave it on top, an advance brings back what it covers. -/
theorem advance_inject (character : Option String) (text : String)
    (closed : Interlude.depth? true 0 interludes = some 0) :
    (Operation.performAll (interpreter.inject character text).after
        (interludes.map Interlude.operation)).advance =
      ⟨.ok interpreter.status, { interpreter with
        history := (Operation.performAll (interpreter.inject character text).after
          (interludes.map Interlude.operation)).history }⟩ := by
  have above : Over (interpreter.inject character text).after 0 _ :=
    .bare (interpreter.inject character text).after.history
  have back := (above.performAll closed).1.eq
  rw [back]
  rfl

end Interpreter

open Interlude

/-- Lines over a story leave no trace but in the log. When every line is taken away again, the story
is as it was before, with the lines added to its log as far as they fit; and each advance that takes
a line away comes back to the status, and to all else, that the line covered. -/
theorem interludes_transparent (content : Content) (settings : StorySettings) (start : Interpreter)
    (reachable : start.Reachable content settings) (interludes : List Interlude)
    (balanced : depth? start.isInterrupted 0 interludes = some 0) :
    (∃ history, Operation.performAll start (interludes.map operation) = { start with history } ∧
      history.limit = start.history.limit ∧
      history.entries = History.newest start.history.limit
        (start.history.entries ++ interludes.filterMap (record? start))) ∧
    ∀ first later, interludes = first ++ dismiss :: later →
      ∃ earlier character text inner, first = earlier ++ inject character text :: inner ∧
        depth? true 0 inner = some 0 ∧
        (Operation.performAll start (first.map operation)).advance =
          ⟨.ok (Operation.performAll start (earlier.map operation)).status,
            { Operation.performAll start (earlier.map operation) with
              history := (Operation.performAll start (first.map operation)).history }⟩ := by
  have bounded : start.history.Bounded := World.Sound.history reachable.sound
  have above : start.Over 0 start := .bare start.history
  obtain ⟨back, log⟩ := above.performAll balanced
  obtain ⟨-, limit, entries⟩ := bounded.foldl_push (interludes.filterMap (record? start))
  constructor
  · refine ⟨_, back.eq, ?_, ?_⟩
    · rw [log, limit]
    · rw [log, entries]
  · rintro first later rfl
    rw [depth?_append] at balanced
    obtain ⟨depth, reached, rest⟩ := Option.bind_eq_some_iff.1 balanced
    rw [depth?_cons] at rest
    obtain ⟨between, dismissed, -⟩ := Option.bind_eq_some_iff.1 rest
    cases depth with
    | zero => cases dismissed
    | succ under =>
        obtain ⟨earlier, character, text, inner, rfl, -, closed⟩ := exists_inject reached
        refine ⟨earlier, character, text, inner, rfl, closed, ?_⟩
        rw [List.map_append, Operation.performAll, List.foldl_append]
        exact Interpreter.advance_inject character text closed

/-- Two lines over a choice, one over the other, while a clock ticks. -/
def doorLines : List Interlude :=
  [inject none "Wait.", tick 0, inject none "Did you hear that?", dismiss, fire 1, dismiss]

/-- A story that asks whether to leave. -/
def doorStart : Interpreter :=
  Operation.performAll (.new Interpreter.doorContent .standard) [.start "start"]

/-- The choice is back behind the lines, and both are in the log. -/
theorem interludes_transparent_door :
    doorStart.status = .choice ∧ depth? doorStart.isInterrupted 0 doorLines = some 0 ∧
      ∃ history, Operation.performAll doorStart (doorLines.map operation) =
          { doorStart with history } ∧
        history.entries =
          [doorStart.spoken none "Wait.", doorStart.spoken none "Did you hear that?"] := by
  have reachable : doorStart.Reachable Interpreter.doorContent .standard := ⟨[.start "start"], rfl⟩
  obtain ⟨history, back, -, entries⟩ :=
    (interludes_transparent Interpreter.doorContent .standard doorStart reachable doorLines rfl).1
  exact ⟨rfl, rfl, history, back, entries⟩

end VisualNovel
