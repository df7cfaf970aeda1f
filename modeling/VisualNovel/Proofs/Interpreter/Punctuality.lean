import VisualNovel.Proofs.Interpreter.Cards

/-!
# Punctuality of title cards

Timers are numbered in the order in which they are armed. So a timer that has fired or was discarded
is never armed again, and the timers that fire in the course of a story have growing numbers.
-/

namespace VisualNovel.Interpreter

open Operation

variable {interpreter before after : Interpreter} {operation : Operation} {timer : TitleTimer}

/-- The numbers of the timers that fire in the course of some operations, in order. -/
def firings (interpreter : Interpreter) : List Operation → List Nat
  | [] => []
  | operation :: operations =>
    ((interpreter.firing? operation).map TitleTimer.token).toList ++
      firings (operation.perform interpreter) operations

/-! ## Numbers of timers -/

/-- A timer was armed under an earlier number, and no effect is awaited beside it. -/
structure Numbered (interpreter : Interpreter) : Prop where
  settled : interpreter.Settled
  older : ∀ timer, interpreter.timer = some timer → timer.token < interpreter.nextToken
  single : interpreter.timer.isSome = true → interpreter.effectPending = false

/-- The next number never falls. -/
theorem Treated.later (treated : Treated before operation after) :
    before.nextToken ≤ after.nextToken := by
  cases treated with
  | kept leaves quiet kept => exact Nat.le_of_eq kept.nextToken.symm
  | announced fires awaits leaves => exact Nat.le_refl _
  | fired fires awaits leaves done => exact (stepForward_proceeds {} done).renewed.later
  | left leaves quiet proceeds => exact proceeds.renewed.later

/-- A timer behind an operation is the one before it, which did not fire, or a new one. -/
theorem Treated.armed (treated : Treated before operation after)
    (armed : after.timer = some timer) :
    (before.firing? operation = none ∧ before.timer = some timer) ∨
      before.nextToken ≤ timer.token := by
  cases treated with
  | kept leaves quiet kept => exact .inl ⟨quiet, kept.timer ▸ armed⟩
  | announced fires awaits leaves => cases armed
  | fired fires awaits leaves done =>
      exact .inr ((stepForward_proceeds {} done).renewed.timer timer armed).1
  | left leaves quiet proceeds => exact .inr (proceeds.renewed.timer timer armed).1

theorem Treated.numbered (treated : Treated before operation after) (numbered : before.Numbered)
    (settled : after.Settled) : after.Numbered := by
  have renewed : Proceeds before after → after.Numbered := fun proceeds =>
    ⟨settled, fun timer armed => (proceeds.renewed.timer timer armed).2,
      fun _ => proceeds.renewed.effectPending⟩
  cases treated with
  | kept leaves quiet kept =>
      refine ⟨settled, ?_, ?_⟩
      · intro timer armed
        rw [kept.nextToken]
        exact numbered.older timer (kept.timer ▸ armed)
      · intro armed
        have idle := numbered.single (kept.timer ▸ armed)
        cases awaited : after.effectPending with
        | false => rfl
        | true => exact absurd (kept.effectPending awaited) (by simp [idle])
  | announced fires awaits leaves =>
      refine ⟨settled, ?_, ?_⟩
      · intro timer armed
        cases armed
      · intro armed
        cases armed
  | fired fires awaits leaves done => exact renewed (stepForward_proceeds {} done)
  | left leaves quiet proceeds => exact renewed proceeds

theorem Numbered.perform (numbered : before.Numbered) (operation : Operation) :
    (operation.perform before).Numbered :=
  (numbered.settled.treated operation).numbered numbered
    (perform_settled before operation numbered.settled)

theorem performAll_numbered (content : Content) (settings : StorySettings)
    (operations : List Operation) :
    (performAll (.new content settings) operations).Numbered := by
  apply performAll_induction fun interpreter operation numbered => numbered.perform operation
  refine ⟨Idle.settled ⟨rfl, rfl, rfl, rfl⟩ rfl, ?_, ?_⟩
  · intro timer armed
    cases armed
  · intro armed
    cases armed

/-- A timer that is found later under a number that was taken before is the one that is armed
now. -/
theorem Numbered.unique (numbered : before.Numbered) (operations : List Operation)
    (armed : (performAll before operations).timer = some timer)
    (older : timer.token < before.nextToken) : before.timer = some timer := by
  induction operations generalizing before with
  | nil => exact armed
  | cons operation operations ih =>
      have treated := numbered.settled.treated operation
      have kept := ih (numbered.perform operation) armed (Nat.lt_of_lt_of_le older treated.later)
      rcases treated.armed kept with ⟨-, same⟩ | newer
      · exact same
      · exact absurd older (Nat.not_lt.2 newer)

/-- What fires later is the armed timer, or one with a new number. -/
theorem Numbered.firings_later (numbered : before.Numbered) (operations : List Operation)
    {token : Nat} (member : token ∈ before.firings operations) :
    (∃ timer, before.timer = some timer ∧ timer.token = token) ∨ before.nextToken ≤ token := by
  induction operations generalizing before with
  | nil => cases member
  | cons operation operations ih =>
      rcases List.mem_append.1 member with first | later
      · obtain ⟨timer, fires, rfl⟩ := Option.map_eq_some_iff.1 (Option.mem_toList.1 first)
        exact .inl ⟨timer, (firing?_eq_some.1 fires).1, rfl⟩
      · have treated := numbered.settled.treated operation
        rcases ih (numbered.perform operation) later with ⟨timer, armed, rfl⟩ | newer
        · rcases treated.armed armed with ⟨-, same⟩ | newer
          · exact .inl ⟨timer, same, rfl⟩
          · exact .inr newer
        · exact .inr (Nat.le_trans treated.later newer)

/-- Behind a timer that fires only timers with greater numbers fire. -/
theorem Numbered.firings_pairwise (numbered : before.Numbered) (operations : List Operation) :
    (before.firings operations).Pairwise (· < ·) := by
  induction operations generalizing before with
  | nil => exact List.Pairwise.nil
  | cons operation operations ih =>
      have treated := numbered.settled.treated operation
      have rest := ih (numbered.perform operation)
      simp only [firings]
      cases fires : before.firing? operation with
      | none => exact rest
      | some timer =>
          refine List.pairwise_cons.2 ⟨?_, rest⟩
          intro token member
          have older := numbered.older timer (firing?_eq_some.1 fires).1
          have newer : before.nextToken ≤ token := by
            rcases (numbered.perform operation).firings_later operations member with
              ⟨next, armed, rfl⟩ | newer
            · rcases treated.armed armed with ⟨quiet, -⟩ | newer
              · rw [fires] at quiet
                cases quiet
              · exact newer
            · exact Nat.le_trans treated.later newer
          exact Nat.lt_of_lt_of_le older newer

/-! ## Punctual interpreters -/

/-- What holds of the timer of a title card, whatever a host does next. -/
structure Punctual (interpreter : Interpreter) : Prop where
  /-- A timer or an awaited effect belongs to the current step, a card with a duration that is on
  screen or under injected lines. -/
  card : interpreter.isTimed = true → ∃ card state durationMs,
    interpreter.currentKind? = some (.titles card) ∧ card.durationMs? = some durationMs ∧
      interpreter.base.status = .titles (some durationMs) ∧
      interpreter.base.screen.title = some ⟨StateTree.substitute state card.text, card.effectStart,
        card.effect, card.effectEnd, card.typewriter, some durationMs⟩
  /-- A timer and an awaited effect exclude each other. -/
  single : interpreter.timer.isSome = true → interpreter.effectPending = false
  /-- The number of the timer was taken before. -/
  older : ∀ timer, interpreter.timer = some timer → timer.token < interpreter.nextToken
  /-- Numbers are not used again. -/
  unique : ∀ operations timer, (performAll interpreter operations).timer = some timer →
    timer.token < interpreter.nextToken → interpreter.timer = some timer
  /-- What takes the story off the card, or ends it there, discards the timer and the awaited
  effect. A card that is reached by it arms a new timer. -/
  discards : ∀ operation, interpreter.leavesCard operation = true →
    Renewed interpreter (operation.perform interpreter)
  /-- All else leaves the card where it is, and its timer armed unless it fires. -/
  stays : ∀ operation, interpreter.isTimed = true → interpreter.leavesCard operation = false →
    (operation.perform interpreter).position = interpreter.position ∧
      (operation.perform interpreter).base = interpreter.base ∧
      (interpreter.firing? operation = none →
        (operation.perform interpreter).timer = interpreter.timer)
  /-- A call under another number changes nothing. -/
  stale : ∀ token, (∀ timer, interpreter.timer = some timer → timer.token ≠ token) →
    interpreter.fireTimer token = interpreter.stay
  /-- Before the deadline the passing of time changes nothing. -/
  early : ∀ now : Instant, (∀ timer, interpreter.timer = some timer → now < timer.deadline) →
    interpreter.tick now = interpreter.stay
  /-- A timer that fires announces the effect at the end of its card, or lets the story go on. -/
  fires : ∀ operation timer, interpreter.firing? operation = some timer →
    if timer.awaitsEffectEnd then operation.perform interpreter = interpreter.announceEffectEnd
    else operation.perform interpreter = interpreter.stepForward.after ∧
      interpreter.stepForward.after.effectEnds = interpreter.effectEnds
  /-- Without a timer that fires no effect is announced. -/
  silent : ∀ operation, interpreter.firing? operation = none →
    (operation.perform interpreter).effectEnds <+: interpreter.effectEnds

theorem Settled.card (settled : interpreter.Settled) (timed : interpreter.isTimed = true) :
    ∃ card state durationMs,
      interpreter.currentKind? = some (.titles card) ∧ card.durationMs? = some durationMs ∧
        interpreter.base.status = .titles (some durationMs) ∧
        interpreter.base.screen.title = some ⟨StateTree.substitute state card.text,
          card.effectStart, card.effect, card.effectEnd, card.typewriter, some durationMs⟩ := by
  have coherent := settled.coherent
  obtain ⟨durationMs, waits⟩ := coherent.timed timed
  obtain ⟨card, state, current, shown, duration, -⟩ := coherent.titles _ waits
  rw [← duration] at shown
  exact ⟨card, state, durationMs, current, duration.symm, waits, shown⟩

theorem Treated.discards (treated : Treated before operation after)
    (leaves : before.leavesCard operation = true) : Renewed before after := by
  cases treated with
  | kept stays quiet kept =>
      rw [leaves] at stays
      cases stays
  | announced fires awaits stays =>
      rw [leaves] at stays
      cases stays
  | fired fires awaits leaves done => exact (stepForward_proceeds {} done).renewed
  | left leaves quiet proceeds => exact proceeds.renewed

theorem Treated.stays (treated : Treated before operation after) (timed : before.isTimed = true)
    (stays : before.leavesCard operation = false) :
    after.position = before.position ∧ after.base = before.base ∧
      (before.firing? operation = none → after.timer = before.timer) := by
  cases treated with
  | kept stays quiet kept => exact ⟨kept.position, kept.base, fun _ => kept.timer⟩
  | announced fires awaits stays =>
      refine ⟨rfl, rfl, ?_⟩
      intro quiet
      rw [fires] at quiet
      cases quiet
  | fired fires awaits leaves done =>
      rw [stays] at leaves
      cases leaves
  | left leaves quiet proceeds =>
      have left := leaves timed
      rw [stays] at left
      cases left

theorem Treated.fires (treated : Treated before operation after)
    (fires : before.firing? operation = some timer) :
    if timer.awaitsEffectEnd then after = before.announceEffectEnd
    else after = before.stepForward.after ∧
      before.stepForward.after.effectEnds = before.effectEnds := by
  cases treated with
  | kept stays quiet kept =>
      rw [fires] at quiet
      cases quiet
  | announced called awaits stays =>
      rw [fires] at called
      cases called
      rw [if_pos awaits]
  | fired called awaits leaves done =>
      rw [fires] at called
      cases called
      rw [if_neg (by simp [awaits])]
      exact ⟨rfl, (stepForward_proceeds {} done).renewed.effectEnds⟩
  | left leaves quiet proceeds =>
      rw [fires] at quiet
      cases quiet

theorem Treated.silent (treated : Treated before operation after)
    (quiet : before.firing? operation = none) : after.effectEnds <+: before.effectEnds := by
  cases treated with
  | kept stays quiet kept => exact kept.effectEnds
  | announced fires awaits stays =>
      rw [fires] at quiet
      cases quiet
  | fired fires awaits leaves done =>
      rw [fires] at quiet
      cases quiet
  | left leaves quiet proceeds => exact proceeds.renewed.effectEnds ▸ List.prefix_rfl

theorem Numbered.punctual (numbered : interpreter.Numbered) : interpreter.Punctual where
  card := numbered.settled.card
  single := numbered.single
  older := numbered.older
  unique operations _ := numbered.unique operations
  discards operation := (numbered.settled.treated operation).discards
  stays operation := (numbered.settled.treated operation).stays
  stale _ other := fireTimer_quiet <| firing?_eq_none fun timer armed =>
    decide_eq_false (other timer armed)
  early _ early := tick_quiet <| firing?_eq_none fun timer armed =>
    decide_eq_false (Int.not_le.2 (early timer armed))
  fires operation _ := (numbered.settled.treated operation).fires
  silent operation := (numbered.settled.treated operation).silent

/-- Every interpreter that a host can reach from a new one is punctual, and no timer fires twice on
the way. -/
theorem performAll_punctual (content : Content) (settings : StorySettings)
    (operations : List Operation) :
    (performAll (.new content settings) operations).Punctual ∧
      (firings (.new content settings) operations).Pairwise (· < ·) :=
  ⟨(performAll_numbered content settings operations).punctual,
    (performAll_numbered content settings []).firings_pairwise operations⟩

end VisualNovel.Interpreter
