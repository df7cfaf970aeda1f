import Mathlib.Data.List.Basic
import VisualNovel.Rules.Engine

/-!
# Passes of the rules

A pass changes the rules by what it notes about those that fired, and the host by their actions. An
engine that was reset has seen nothing, so its next pass fires every enabled rule whose conditions
hold, whatever it had seen before.
-/

namespace VisualNovel

variable {σ : Type} [RuleHost σ]

namespace Rule

/-- Whether the rule takes part and its conditions hold. -/
def isHeld (host : σ) (rule : Rule σ) : Bool :=
  rule.enabled && rule.conditionsHold host

theorem isHeld_withoutStatistics (host : σ) (rule : Rule σ) :
    rule.withoutStatistics.isHeld host = rule.isHeld host := rfl

omit [RuleHost σ] in
/-- A rule that never fired is not suppressed. -/
theorem isSuppressed_withoutStatistics (now : Int) (rule : Rule σ) :
    rule.withoutStatistics.isSuppressed now = false := by
  simp [isSuppressed, withoutStatistics]

omit [RuleHost σ] in
/-- A property of rules that does not depend on how often and when they fired. -/
structure Timeless (kept : Rule σ → Prop) : Prop where
  forgotten : ∀ {rule}, kept rule → kept rule.withoutStatistics
  triggered : ∀ {rule} now, kept rule → kept (rule.triggered now)

end Rule

namespace RuleEngine

variable {host : σ} {now : Int} {kept : Rule σ → Prop} {engine : RuleEngine σ}

/-- What firing notes about a rule. -/
def noted (now : Int) (rule : Rule σ) (due : Bool) : Rule σ :=
  if due && !rule.isSuppressed now then rule.triggered now else rule

/-- Firing changes nothing of the rules but what it notes. -/
theorem fire_rules (marked : List (Rule σ × Bool)) (host : σ) :
    (fire now marked host).1 = marked.map fun entry => noted now entry.1 entry.2 := by
  induction marked generalizing host with
  | nil => rfl
  | cons entry marked ih =>
      obtain ⟨rule, due⟩ := entry
      rw [List.map_cons]
      simp only [fire, noted]
      split
      · exact congrArg (rule.triggered now :: ·) (ih (rule.perform host))
      · exact congrArg (rule :: ·) (ih host)

/-- Rules that are not due leave the host as it is. -/
theorem fire_host {marked : List (Rule σ × Bool)} (idle : ∀ entry ∈ marked, entry.2 = false) :
    (fire now marked host).2.1 = host := by
  induction marked with
  | nil => rfl
  | cons entry marked ih =>
      obtain ⟨rule, due⟩ := entry
      have off : due = false := idle _ (List.mem_cons_self ..)
      subst off
      exact ih fun other member => idle other (List.mem_cons_of_mem _ member)

/-- What every rule keeps of the host is kept by firing. -/
theorem fire_keeps {kept : σ → Prop} {marked : List (Rule σ × Bool)}
    (each : ∀ entry ∈ marked, ∀ host, kept host → kept (entry.1.perform host))
    (holds : kept host) : kept (fire now marked host).2.1 := by
  induction marked generalizing host with
  | nil => exact holds
  | cons entry marked ih =>
      have rest := fun other member => each other (List.mem_cons_of_mem entry member)
      simp only [fire]
      split
      · exact ih rest (each entry (List.mem_cons_self ..) host holds)
      · exact ih rest holds

/-- What every rule keeps of the host is kept by a pass. -/
theorem evaluateAt_host {kept : σ → Prop}
    (each : ∀ rule ∈ engine.rules, ∀ host, kept host → kept (rule.perform host))
    (holds : kept host) (now : Int) : kept (engine.evaluateAt host now).2.1 := by
  simp only [evaluateAt]
  split
  · apply fire_keeps _ holds
    intro entry member
    obtain ⟨rule, known, rfl⟩ := List.mem_map.1 member
    exact each rule known
  · exact holds

/-- A pass keeps what is timeless of the rules. -/
theorem evaluateAt_keeps (timeless : Rule.Timeless kept) (holds : ∀ rule ∈ engine.rules, kept rule)
    (host : σ) (now : Int) : ∀ rule ∈ (engine.evaluateAt host now).1.rules, kept rule := by
  simp only [evaluateAt]
  split
  · dsimp only
    rw [fire_rules, List.map_map]
    intro rule member
    obtain ⟨original, known, rfl⟩ := List.mem_map.1 member
    simp only [Function.comp_apply, noted]
    split
    · exact timeless.triggered now (holds original known)
    · exact holds original known
  · exact holds

/-- Firing keeps two hosts in a relation that every rule keeps. -/
theorem fire_alike {alike : σ → σ → Prop} {marked : List (Rule σ × Bool)}
    (each : ∀ entry ∈ marked, ∀ first second, alike first second →
      alike (entry.1.perform first) (entry.1.perform second))
    {first second : σ} (same : alike first second) :
    alike (fire now marked first).2.1 (fire now marked second).2.1 := by
  induction marked generalizing first second with
  | nil => exact same
  | cons entry marked ih =>
      have rest := fun other member => each other (List.mem_cons_of_mem entry member)
      simp only [fire]
      split
      · exact ih rest (each entry (List.mem_cons_self ..) first second same)
      · exact ih rest same

/-- A pass notes the same about the rules on two hosts that no rule tells apart, and keeps the hosts
in a relation that every rule keeps. -/
theorem evaluateAt_alike {alike : σ → σ → Prop}
    (judges : ∀ rule ∈ engine.rules, ∀ first second, alike first second →
      rule.conditionsHold second = rule.conditionsHold first)
    (each : ∀ rule ∈ engine.rules, ∀ first second, alike first second →
      alike (rule.perform first) (rule.perform second))
    {first second : σ} (same : alike first second) (now : Int) :
    (engine.evaluateAt second now).1 = (engine.evaluateAt first now).1 ∧
      alike (engine.evaluateAt first now).2.1 (engine.evaluateAt second now).2.1 := by
  have due : (engine.rules.map fun rule => (rule, engine.isDue second rule)) =
      engine.rules.map fun rule => (rule, engine.isDue first rule) := by
    apply List.map_congr_left
    intro rule known
    simp only [isDue]
    rw [judges rule known first second same]
  have judged : engine.judged second = engine.judged first := by
    simp only [RuleEngine.judged]
    apply List.foldl_ext
    intro seen rule member
    rw [judges rule (List.mem_of_mem_filter member) first second same]
  simp only [evaluateAt]
  split
  · dsimp only
    rw [due, judged, fire_rules, fire_rules]
    refine ⟨rfl, fire_alike ?_ same⟩
    intro entry member
    obtain ⟨rule, known, rfl⟩ := List.mem_map.1 member
    exact each rule known
  · exact ⟨rfl, same⟩

omit [RuleHost σ] in
theorem reset_keeps (timeless : Rule.Timeless kept) (holds : ∀ rule ∈ engine.rules, kept rule) :
    ∀ rule ∈ engine.reset.rules, kept rule := by
  intro rule member
  obtain ⟨original, known, rfl⟩ := List.mem_map.1 member
  exact timeless.forgotten (holds original known)

omit [RuleHost σ] in
/-- Registering rules keeps what is timeless of all of them. -/
theorem registerAll_keeps (timeless : Rule.Timeless kept) {rules : List (Rule σ)}
    (added : ∀ rule ∈ rules, kept rule) (holds : ∀ rule ∈ engine.rules, kept rule) :
    ∀ rule ∈ (registerAll rules engine).1.rules, kept rule := by
  induction rules generalizing engine with
  | nil => exact holds
  | cons first rules ih =>
      simp only [registerAll]
      split
      · rename_i grown registered
        apply ih fun other member => added other (List.mem_cons_of_mem _ member)
        simp only [register] at registered
        split at registered
        · cases registered
        · split at registered
          · cases registered
          · cases registered
            intro rule member
            rcases List.mem_append.1 member with old | new
            · exact holds rule old
            · rw [List.mem_singleton.1 new]
              exact timeless.forgotten (added first (List.mem_cons_self ..))
      · exact holds

/-- An engine that was reset finds every rule due that is enabled and whose conditions hold. -/
theorem isDue_reset (engine : RuleEngine σ) (host : σ) (rule : Rule σ) :
    engine.reset.isDue host rule = rule.isHeld host := by
  have unseen : Dict.get? engine.reset.seen rule.id = none := rfl
  simp only [isDue, Rule.isHeld]
  rw [unseen]
  simp

/-- After a reset, a pass fires exactly the enabled rules whose conditions hold. -/
theorem evaluateAt_reset_rules (engine : RuleEngine σ) (host : σ) (now : Int) :
    (engine.reset.evaluateAt host now).1.rules = engine.rules.map fun rule =>
      if engine.running && rule.isHeld host then rule.withoutStatistics.triggered now
      else rule.withoutStatistics := by
  unfold evaluateAt
  have running : engine.reset.running = engine.running := rfl
  rw [running]
  cases engine.running with
  | false => rfl
  | true =>
      dsimp only
      rw [if_pos rfl, fire_rules]
      change ((engine.rules.map Rule.withoutStatistics).map _).map _ = _
      rw [List.map_map, List.map_map]
      apply List.map_congr_left
      intro rule member
      change noted now rule.withoutStatistics (engine.reset.isDue host rule.withoutStatistics) = _
      rw [isDue_reset, Rule.isHeld_withoutStatistics]
      simp only [noted]
      rw [Rule.isSuppressed_withoutStatistics]
      simp

/-- After a reset, a pass fires no rule when the engine rests or no enabled rule holds. -/
theorem evaluateAt_reset_untriggered (engine : RuleEngine σ) (host : σ) (now : Int) :
    (∀ rule ∈ (engine.reset.evaluateAt host now).1.rules, rule.triggerCount = 0) ↔
      (engine.running = true → ∀ rule ∈ engine.rules, rule.isHeld host = false) := by
  rw [evaluateAt_reset_rules]
  constructor
  · intro untriggered running rule known
    have count := untriggered _ (List.mem_map_of_mem known)
    cases held : rule.isHeld host with
    | false => rfl
    | true =>
        rw [running, held] at count
        cases count
  · intro quiet rule member
    obtain ⟨original, known, rfl⟩ := List.mem_map.1 member
    split
    · rename_i fires
      simp only [Bool.and_eq_true] at fires
      rw [quiet fires.1 original known] at fires
      cases fires.2
    · rfl

/-- After a reset, a pass leaves the host as it is when no enabled rule holds. -/
theorem evaluateAt_reset_host {engine : RuleEngine σ}
    (quiet : engine.running = true → ∀ rule ∈ engine.rules, rule.isHeld host = false) :
    (engine.reset.evaluateAt host now).2.1 = host := by
  simp only [evaluateAt]
  split
  · rename_i running
    apply fire_host
    intro entry member
    obtain ⟨rule, listed, rfl⟩ := List.mem_map.1 member
    obtain ⟨original, known, rfl⟩ := List.mem_map.1 listed
    change engine.reset.isDue host original.withoutStatistics = false
    rw [isDue_reset]
    exact quiet running original known
  · rfl

end RuleEngine

end VisualNovel
