import VisualNovel.Proofs.Rules.Firing

/-!
# What an engine does, told from its past

The past of an engine is the list of the operations on it. Which rules are registered and enabled,
whether the conditions of a rule held when they were last looked at, and when it fired since its
statistics were last cleared can all be told from the past alone, without the engine. A pass fires
exactly the rules that are due by this account, and the engine carries nothing else.
-/

namespace VisualNovel

/-- What can be done with an engine. A pass takes the host as it is then. -/
inductive RuleOperation (σ : Type) where
  | register (rule : Rule σ)
  | setEnabled (id : String) (enabled : Bool)
  | start
  | stop
  | evaluate (host : σ) (now : Instant)
  | resetStatistics
  | reset

/-- The operations on an engine, the last one first. -/
abbrev Chronicle (σ : Type) := List (RuleOperation σ)

variable {σ : Type}

namespace RuleEngine

/-- The engine behind an operation, also when it is refused. -/
def perform [RuleHost σ] (engine : RuleEngine σ) : RuleOperation σ → RuleEngine σ
  | .register rule =>
    match engine.register rule with
    | .ok after => after
    | .error _ => engine
  | .setEnabled id enabled => (engine.setEnabled? id enabled).getD engine
  | .start => engine.start
  | .stop => engine.stop
  | .evaluate host now => (engine.evaluateAt host now).1
  | .resetStatistics => engine.resetStatistics
  | .reset => engine.reset

/-- A new engine behind its past. -/
def behind [RuleHost σ] (past : Chronicle σ) : RuleEngine σ :=
  past.foldr (fun operation engine => engine.perform operation) empty

end RuleEngine

/-- Whether a rule fires, given whether the engine runs and the rule is enabled, whether its
conditions held when they were last looked at, and when it fired, the last time first. -/
structure Rule.Fires [RuleHost σ] (running enabled held : Bool) (fired : List Instant) (host : σ)
    (now : Instant) (rule : Rule σ) : Prop where
  running : running = true
  enabled : enabled = true
  holds : rule.conditionsHold host = true
  edge : rule.mode = .onChange → held = false
  first : rule.once = true → fired = []
  spaced : rule.debounceMs = 0 ∨ ∀ last ∈ fired.head?, rule.debounceMs ≤ Instant.elapsed last now

instance [RuleHost σ] (running enabled held : Bool) (fired : List Instant) (host : σ)
    (now : Instant) (rule : Rule σ) : Decidable (rule.Fires running enabled held fired host now) :=
  decidable_of_iff
    (running = true ∧ enabled = true ∧ rule.conditionsHold host = true ∧
      (rule.mode = .onChange → held = false) ∧ (rule.once = true → fired = []) ∧
      (rule.debounceMs = 0 ∨
        ∀ last ∈ fired.head?, rule.debounceMs ≤ Instant.elapsed last now))
    ⟨fun ⟨running, enabled, holds, edge, first, spaced⟩ =>
        ⟨running, enabled, holds, edge, first, spaced⟩,
      fun fires => ⟨fires.running, fires.enabled, fires.holds, fires.edge, fires.first,
        fires.spaced⟩⟩

/-- Whether a rule may join others: its identifier is neither blank nor in use. -/
def Rule.joins (rules : List (Rule σ)) (rule : Rule σ) : Bool :=
  !(Text.trimmed rule.id).isEmpty && !(rules.map Rule.id).contains rule.id

namespace Chronicle

/-- The rules that were accepted, in order. -/
def registered : Chronicle σ → List (Rule σ)
  | [] => []
  | .register rule :: past =>
    if rule.joins (registered past) then registered past ++ [rule] else registered past
  | _ :: past => registered past

/-- Whether there is a rule with the identifier. -/
def Knows (past : Chronicle σ) (id : String) : Prop :=
  id ∈ (registered past).map Rule.id

instance (past : Chronicle σ) (id : String) : Decidable (Knows past id) :=
  inferInstanceAs (Decidable (id ∈ (registered past).map Rule.id))

/-- Whether the engine was started and not stopped since. -/
def isRunning : Chronicle σ → Bool
  | [] => false
  | .start :: _ => true
  | .stop :: _ => false
  | _ :: past => isRunning past

/-- Whether a rule was registered as enabled, or enabled later, and not disabled since. -/
def isEnabled (id : String) : Chronicle σ → Bool
  | [] => false
  | .register rule :: past =>
    if rule.id = id ∧ rule.joins (registered past) then rule.enabled else isEnabled id past
  | .setEnabled other enabled :: past =>
    if other = id ∧ Knows past id then enabled else isEnabled id past
  | _ :: past => isEnabled id past

variable [RuleHost σ]

/-- Whether the conditions of a rule held in the last pass that looked at them, since the engine was
last reset. -/
def held (rule : Rule σ) : Chronicle σ → Bool
  | [] => false
  | .evaluate host _ :: past =>
    if isRunning past ∧ isEnabled rule.id past then rule.conditionsHold host else held rule past
  | .reset :: _ => false
  | _ :: past => held rule past

/-- When a rule fired since the statistics were last cleared, the last time first. -/
def firings (rule : Rule σ) : Chronicle σ → List Instant
  | [] => []
  | .evaluate host now :: past =>
    if rule.Fires (isRunning past) (isEnabled rule.id past) (held rule past) (firings rule past)
      host now then now :: firings rule past
    else firings rule past
  | .resetStatistics :: _ => []
  | .reset :: _ => []
  | _ :: past => firings rule past

/-- Whether a pass fires a rule. -/
def Fires (past : Chronicle σ) (host : σ) (now : Instant) (rule : Rule σ) : Prop :=
  rule.Fires (isRunning past) (isEnabled rule.id past) (held rule past) (firings rule past) host now

instance (past : Chronicle σ) (host : σ) (now : Instant) (rule : Rule σ) :
    Decidable (Fires past host now rule) :=
  inferInstanceAs (Decidable (rule.Fires _ _ _ _ host now))

/-- A registered rule with what the past made of it. -/
def current (past : Chronicle σ) (rule : Rule σ) : Rule σ :=
  { rule with
    enabled := isEnabled rule.id past
    triggerCount := (firings rule past).length
    lastTriggered := (firings rule past).head? }

/-! ## What the past tells -/

section Past

variable {past : Chronicle σ} {id : String} {rule : Rule σ}

omit [RuleHost σ] in
theorem joins_iff : rule.joins (registered past) = true ↔
    (Text.trimmed rule.id).isEmpty = false ∧ ¬ Knows past rule.id := by
  simp [Rule.joins, Knows]

omit [RuleHost σ] in
theorem Knows.later (known : Knows past id) (operation : RuleOperation σ) :
    Knows (operation :: past) id := by
  cases operation with
  | register rule =>
      simp only [Knows, registered]
      split
      · rw [List.map_append]
        exact List.mem_append_left _ known
      · exact known
  | _ => exact known

omit [RuleHost σ] in
theorem knows_register (joins : rule.joins (registered past) = true) :
    Knows (.register rule :: past) rule.id := by
  simp only [Knows, registered]
  rw [if_pos joins, List.map_append]
  exact List.mem_append_right _ (List.mem_singleton.2 rfl)

omit [RuleHost σ] in
/-- Identifiers are not blank. -/
theorem registered_named (past : Chronicle σ) :
    ∀ rule ∈ registered past, (Text.trimmed rule.id).isEmpty = false := by
  induction past with
  | nil =>
      intro rule absent
      cases absent
  | cons operation past named =>
      cases operation with
      | register rule =>
          simp only [registered]
          split
          · rename_i joins
            intro other member
            rcases List.mem_append.1 member with old | new
            · exact named other old
            · rw [List.mem_singleton.1 new]
              exact (joins_iff.1 joins).1
          · exact named
      | _ => exact named

omit [RuleHost σ] in
/-- Identifiers are distinct. -/
theorem registered_nodup (past : Chronicle σ) : ((registered past).map Rule.id).Nodup := by
  induction past with
  | nil => exact List.nodup_nil
  | cons operation past distinct =>
      cases operation with
      | register rule =>
          simp only [registered]
          split
          · rename_i joins
            rw [List.map_append, List.nodup_append]
            refine ⟨distinct, by simp, ?_⟩
            rintro id known other new rfl
            rw [List.map_singleton, List.mem_singleton] at new
            exact (joins_iff.1 joins).2 (new ▸ known)
          · exact distinct
      | _ => exact distinct

omit [RuleHost σ] in
/-- Only registered rules are enabled. -/
theorem knows_of_isEnabled (enabled : isEnabled id past = true) : Knows past id := by
  induction past with
  | nil => cases enabled
  | cons operation past ih =>
      cases operation with
      | register rule =>
          simp only [isEnabled] at enabled
          split at enabled
          · rename_i own
            exact own.1 ▸ knows_register own.2
          · exact (ih enabled).later _
      | setEnabled other switched =>
          simp only [isEnabled] at enabled
          split at enabled
          · rename_i own
            exact own.2.later _
          · exact (ih enabled).later _
      | _ => exact (ih enabled).later _

/-- The conditions of a rule are looked at after its registration only. -/
theorem knows_of_held (held : held rule past = true) : Knows past rule.id := by
  induction past with
  | nil => cases held
  | cons operation past ih =>
      cases operation with
      | evaluate host now =>
          simp only [Chronicle.held] at held
          split at held
          · rename_i judged
            exact (knows_of_isEnabled judged.2).later _
          · exact (ih held).later _
      | reset => cases held
      | _ => exact (ih held).later _

/-- A rule fires after its registration only. -/
theorem firings_eq_nil (unknown : ¬ Knows past rule.id) : firings rule past = [] := by
  induction past with
  | nil => rfl
  | cons operation past ih =>
      have before : ¬ Knows past rule.id := fun known => unknown (known.later operation)
      cases operation with
      | evaluate host now =>
          simp only [firings]
          rw [if_neg fun fires => before (knows_of_isEnabled fires.enabled)]
          exact ih before
      | resetStatistics => rfl
      | reset => rfl
      | _ => exact ih before

end Past

end Chronicle

end VisualNovel
