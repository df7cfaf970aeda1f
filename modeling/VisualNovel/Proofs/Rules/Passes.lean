import VisualNovel.Proofs.Rules.Chronicle

/-!
# Passes agree with the past

An engine carries what its past tells and nothing else: the registered rules with what became of
them, whether it runs, and what was seen of the conditions. So a pass fires the rules that the past
finds due, judged on the host as it was before any of them acted.
-/

namespace VisualNovel

variable {σ : Type} [RuleHost σ]

omit [RuleHost σ] in
/-- A rule may fire when it did not use up its only firing, and its last one is long enough ago. -/
theorem Rule.isSuppressed_eq_false {rule : Rule σ} {now : Instant} :
    rule.isSuppressed now = false ↔
      (rule.once = true → rule.triggerCount = 0) ∧
        (rule.debounceMs = 0 ∨
          ∀ last ∈ rule.lastTriggered, rule.debounceMs ≤ Instant.elapsed last now) := by
  rw [Rule.isSuppressed, Bool.or_eq_false_iff]
  apply and_congr
  · cases rule.once <;> simp
  · cases rule.lastTriggered with
    | none => simp
    | some last =>
        rcases Nat.eq_zero_or_pos rule.debounceMs with free | long
        · simp [free]
        · simp [long, Nat.ne_of_gt long]

namespace RuleEngine

variable {engine : RuleEngine σ} {host : σ} {now : Instant} {rule : Rule σ} {id : String}

/-! ## One pass -/

/-- Whether a pass fires a rule of the engine. -/
def firesNow (engine : RuleEngine σ) (host : σ) (now : Instant) (rule : Rule σ) : Bool :=
  engine.isDue host rule && !rule.isSuppressed now

/-- The rules that fire act one after the other. -/
theorem fire_acts (engine : RuleEngine σ) (judged : σ) (now : Instant) (rules : List (Rule σ))
    (host : σ) :
    (fire now (rules.map fun rule => (rule, engine.isDue judged rule)) host).2.1 =
        (rules.filter (engine.firesNow judged now)).foldl Rule.perform host ∧
      (fire now (rules.map fun rule => (rule, engine.isDue judged rule)) host).2.2 =
        (rules.filter (engine.firesNow judged now)).map Rule.id := by
  induction rules generalizing host with
  | nil => exact ⟨rfl, rfl⟩
  | cons rule rules ih =>
      rw [List.map_cons, List.filter_cons]
      simp only [fire]
      by_cases fires : engine.firesNow judged now rule = true
      · obtain ⟨acted, fired⟩ := ih (rule.perform host)
        rw [if_pos fires]
        rw [if_pos (show (engine.isDue judged rule && !rule.isSuppressed now) = true from fires)]
        exact ⟨acted, congrArg (rule.id :: ·) fired⟩
      · rw [if_neg fires]
        rw [if_neg (show ¬ (engine.isDue judged rule && !rule.isSuppressed now) = true from fires)]
        exact ih host

/-- A pass of an engine that runs. -/
theorem evaluateAt_running (running : engine.running = true) (host : σ) (now : Instant) :
    engine.evaluateAt host now =
      ({ engine with
          rules := engine.rules.map fun rule =>
            if engine.firesNow host now rule then rule.triggered now else rule
          seen := engine.judged host },
        (engine.rules.filter (engine.firesNow host now)).foldl Rule.perform host,
        (engine.rules.filter (engine.firesNow host now)).map Rule.id) := by
  obtain ⟨acted, fired⟩ := fire_acts engine host now engine.rules host
  simp only [evaluateAt]
  rw [if_pos running, fire_rules, acted, fired, List.map_map]
  rfl

theorem evaluateAt_resting (resting : engine.running = false) (host : σ) (now : Instant) :
    engine.evaluateAt host now = (engine, host, []) := by
  simp only [evaluateAt]
  rw [if_neg (by simp [resting])]

/-- A rule is due when it is enabled and its conditions hold, and did not hold before if it fires on
a change. -/
theorem isDue_iff : engine.isDue host rule = true ↔
    rule.enabled = true ∧ rule.conditionsHold host = true ∧
      (rule.mode = .onChange → (Dict.get? engine.seen rule.id).getD false = false) := by
  simp only [isDue]
  cases rule.mode <;> simp [and_assoc]

/-! ## What is seen -/

/-- Judging rules one by one. -/
def judge (host : σ) (rules : List (Rule σ)) (seen : Dict Bool) : Dict Bool :=
  rules.foldl (fun seen rule => Dict.insert rule.id (rule.conditionsHold host) seen) seen

theorem judge_other (host : σ) {rules : List (Rule σ)} (unjudged : ∀ rule ∈ rules, rule.id ≠ id)
    (seen : Dict Bool) : Dict.get? (judge host rules seen) id = Dict.get? seen id := by
  induction rules generalizing seen with
  | nil => rfl
  | cons rule rules ih =>
      have rest := ih (fun other member => unjudged other (List.mem_cons_of_mem _ member))
        (Dict.insert rule.id (rule.conditionsHold host) seen)
      refine rest.trans ?_
      rw [Dict.get?_insert, if_neg (unjudged rule (List.mem_cons_self ..))]

/-- Among rules with distinct identifiers, each is seen as it was judged. -/
theorem judge_own (host : σ) {rules : List (Rule σ)} (distinct : (rules.map Rule.id).Nodup)
    (judged : rule ∈ rules) (seen : Dict Bool) :
    Dict.get? (judge host rules seen) rule.id = some (rule.conditionsHold host) := by
  induction rules generalizing seen with
  | nil => cases judged
  | cons first rules ih =>
      rw [List.map_cons, List.nodup_cons] at distinct
      rcases List.mem_cons.1 judged with rfl | later
      · have others : ∀ other ∈ rules, other.id ≠ rule.id := by
          intro other member same
          exact distinct.1 (same ▸ List.mem_map_of_mem member)
        refine (judge_other host others _).trans ?_
        rw [Dict.get?_insert, if_pos rfl]
      · exact ih distinct.2 later _

/-! ## The account of an engine -/

open Chronicle

/-- An engine carries what its past tells. -/
structure Agrees (past : Chronicle σ) (engine : RuleEngine σ) : Prop where
  rules : engine.rules = (registered past).map (current past)
  running : engine.running = isRunning past
  seen : ∀ rule ∈ registered past,
    (Dict.get? engine.seen rule.id).getD false = held rule past
  unseen : ∀ id, ¬ Knows past id → Dict.get? engine.seen id = none

variable {past : Chronicle σ}

theorem Agrees.ids (agrees : Agrees past engine) :
    engine.rules.map Rule.id = (registered past).map Rule.id := by
  rw [agrees.rules, List.map_map]
  rfl

theorem Agrees.named (agrees : Agrees past engine) :
    ∀ rule ∈ engine.rules, (Text.trimmed rule.id).isEmpty = false := by
  intro rule member
  rw [agrees.rules] at member
  obtain ⟨original, known, rfl⟩ := List.mem_map.1 member
  exact registered_named past original known

theorem Agrees.nodup (agrees : Agrees past engine) : (engine.rules.map Rule.id).Nodup := by
  rw [agrees.ids]
  exact registered_nodup past

theorem Agrees.rule? (agrees : Agrees past engine) :
    (engine.rule? id).isSome = true ↔ Knows past id := by
  simp only [RuleEngine.rule?, Knows]
  rw [← agrees.ids, List.find?_isSome, List.mem_map]
  simp

/-- Whether a pass fires a rule is told by the past. -/
theorem Agrees.fires_iff (agrees : Agrees past engine) (running : engine.running = true)
    (member : rule ∈ registered past) :
    engine.firesNow host now (current past rule) = true ↔ Fires past host now rule := by
  have runs : isRunning past = true := agrees.running.symm.trans running
  have seen : (Dict.get? engine.seen (current past rule).id).getD false = held rule past :=
    agrees.seen rule member
  have due : engine.isDue host (current past rule) = true ↔
      isEnabled rule.id past = true ∧ rule.conditionsHold host = true ∧
        (rule.mode = .onChange → held rule past = false) := by
    rw [isDue_iff, seen]
    rfl
  have free : (current past rule).isSuppressed now = false ↔
      (rule.once = true → firings rule past = []) ∧
        (rule.debounceMs = 0 ∨
          ∀ last ∈ (firings rule past).head?, rule.debounceMs ≤ Instant.elapsed last now) := by
    rw [Rule.isSuppressed_eq_false, ← List.length_eq_zero_iff]
    rfl
  rw [firesNow, Bool.and_eq_true, Bool.not_eq_true', due, free]
  constructor
  · rintro ⟨⟨enabled, holds, edge⟩, first, spaced⟩
    exact ⟨runs, enabled, holds, edge, first, spaced⟩
  · intro fires
    exact ⟨⟨fires.enabled, fires.holds, fires.edge⟩, fires.first, fires.spaced⟩

/-! ## What each operation keeps -/

theorem empty_agrees : Agrees [] (empty : RuleEngine σ) where
  rules := rfl
  running := rfl
  seen := nofun
  unseen := fun _ _ => rfl

/-- A rule that may join the others comes last, as if it had never fired, and any other is
refused. -/
theorem Agrees.perform_register (agrees : Agrees past engine) (rule : Rule σ) :
    engine.perform (.register rule) =
      if rule.joins (registered past) then
        { engine with rules := engine.rules ++ [rule.withoutStatistics] }
      else engine := by
  simp only [perform, register]
  by_cases blank : (Text.trimmed rule.id).isEmpty = true
  · have refused : ¬ rule.joins (registered past) = true := by
      rw [joins_iff, blank]
      rintro ⟨named, -⟩
      cases named
    rw [if_pos blank, if_neg refused]
  · rw [if_neg blank]
    by_cases known : Knows past rule.id
    · have refused : ¬ rule.joins (registered past) = true := by
        rw [joins_iff]
        exact fun joins => joins.2 known
      rw [if_pos (agrees.rule?.2 known), if_neg refused]
    · have joins : rule.joins (registered past) = true :=
        joins_iff.2 ⟨Bool.eq_false_iff.2 blank, known⟩
      rw [if_neg fun found => known (agrees.rule?.1 found), if_pos joins]

/-- Nothing else became of a rule. -/
theorem current_congr {later : Chronicle σ}
    (enabled : isEnabled rule.id later = isEnabled rule.id past)
    (fired : firings rule later = firings rule past) : current later rule = current past rule := by
  simp only [current]
  rw [enabled, fired]

theorem Agrees.register (agrees : Agrees past engine) (rule : Rule σ) :
    Agrees (.register rule :: past) (engine.perform (.register rule)) := by
  rw [agrees.perform_register]
  have unseen : ∀ id, ¬ Knows (.register rule :: past) id → Dict.get? engine.seen id = none :=
    fun id unknown => agrees.unseen id fun known => unknown (known.later _)
  by_cases joins : rule.joins (registered past) = true
  · have fresh := (joins_iff.1 joins).2
    have grown : registered (.register rule :: past) = registered past ++ [rule] := if_pos joins
    -- The new rule shares its identifier with no other, so nothing becomes of them.
    have older : ∀ other ∈ registered past,
        current (.register rule :: past) other = current past other := by
      intro other member
      have apart : rule.id ≠ other.id := fun same => fresh (same ▸ List.mem_map_of_mem member)
      exact current_congr (if_neg fun own => apart own.1) rfl
    have newest : current (.register rule :: past) rule = rule.withoutStatistics := by
      have switched : isEnabled rule.id (.register rule :: past) = rule.enabled :=
        if_pos ⟨rfl, joins⟩
      have unfired : firings rule past = [] := firings_eq_nil fresh
      simp only [current, firings]
      rw [switched, unfired]
      rfl
    rw [if_pos joins]
    refine ⟨?_, agrees.running, ?_, unseen⟩
    · rw [grown, List.map_append, List.map_congr_left older, List.map_singleton, newest,
        ← agrees.rules]
    · intro other member
      rw [grown] at member
      rcases List.mem_append.1 member with old | new
      · exact agrees.seen other old
      · rw [List.mem_singleton.1 new, agrees.unseen rule.id fresh]
        exact (Bool.eq_false_iff.2 fun held => fresh (knows_of_held held)).symm
  · have same : registered (.register rule :: past) = registered past := if_neg joins
    have older : current (.register rule :: past) = current past := by
      funext other
      exact current_congr (if_neg fun own => joins own.2) rfl
    rw [if_neg joins]
    refine ⟨?_, agrees.running, ?_, unseen⟩
    · rw [same, older]
      exact agrees.rules
    · rw [same]
      exact agrees.seen

theorem Agrees.setEnabled (agrees : Agrees past engine) (id : String) (enabled : Bool) :
    Agrees (.setEnabled id enabled :: past) (engine.perform (.setEnabled id enabled)) := by
  simp only [perform, setEnabled?]
  by_cases known : Knows past id
  · rw [if_pos (agrees.rule?.2 known)]
    refine ⟨?_, agrees.running, agrees.seen, agrees.unseen⟩
    change engine.rules.map _ = (registered past).map _
    rw [agrees.rules, List.map_map]
    apply List.map_congr_left
    intro rule member
    change (if (current past rule).id = id then { current past rule with enabled }
      else current past rule) = _
    by_cases own : (current past rule).id = id
    · have switched : isEnabled rule.id (.setEnabled id enabled :: past) = enabled :=
        if_pos ⟨own.symm, own ▸ known⟩
      rw [if_pos own]
      simp only [current]
      rw [switched]
      rfl
    · have unswitched : isEnabled rule.id (.setEnabled id enabled :: past) =
          isEnabled rule.id past := if_neg fun other => own other.1.symm
      rw [if_neg own]
      exact (current_congr unswitched rfl).symm
  · have unchanged : current (.setEnabled id enabled :: past) = current past := by
      funext rule
      have unswitched : isEnabled rule.id (.setEnabled id enabled :: past) =
          isEnabled rule.id past := if_neg fun ⟨own, registered⟩ => known (own ▸ registered)
      exact current_congr unswitched rfl
    rw [if_neg fun found => known (agrees.rule?.1 found)]
    refine ⟨?_, agrees.running, agrees.seen, agrees.unseen⟩
    rw [unchanged]
    exact agrees.rules

/-- A pass notes the time of those that fire. -/
theorem current_evaluate (past : Chronicle σ) (host : σ) (now : Instant) (rule : Rule σ) :
    current (.evaluate host now :: past) rule =
      if Fires past host now rule then (current past rule).triggered now
      else current past rule := by
  by_cases fires : Fires past host now rule
  · have fired : firings rule (.evaluate host now :: past) = now :: firings rule past :=
      if_pos fires
    rw [if_pos fires]
    simp only [current, isEnabled]
    rw [fired]
    rfl
  · rw [if_neg fires]
    exact current_congr rfl (if_neg fires)

/-- Judging sees the conditions of the enabled rules, and leaves what was seen of the others. -/
theorem Agrees.judged (agrees : Agrees past engine) (running : engine.running = true) (host : σ)
    (now : Instant) (member : rule ∈ registered past) :
    (Dict.get? (engine.judged host) rule.id).getD false =
      held rule (.evaluate host now :: past) := by
  have runs : isRunning past = true := agrees.running.symm.trans running
  change (Dict.get? (judge host (engine.rules.filter Rule.enabled) engine.seen) rule.id).getD _ = _
  simp only [held]
  by_cases enabled : isEnabled rule.id past = true
  · have judged : current past rule ∈ engine.rules.filter Rule.enabled := by
      rw [agrees.rules]
      exact List.mem_filter.2 ⟨List.mem_map_of_mem member, enabled⟩
    have distinct : ((engine.rules.filter Rule.enabled).map Rule.id).Nodup :=
      List.Nodup.sublist (List.filter_sublist.map Rule.id) agrees.nodup
    have seen := judge_own host distinct judged engine.seen
    change Dict.get? _ rule.id = some (rule.conditionsHold host) at seen
    rw [seen, if_pos ⟨runs, enabled⟩]
    rfl
  · -- A rule that is judged under this identifier would be enabled under it.
    have unjudged : ∀ other ∈ engine.rules.filter Rule.enabled, other.id ≠ rule.id := by
      intro other judged same
      obtain ⟨listed, on⟩ := List.mem_filter.1 judged
      rw [agrees.rules] at listed
      obtain ⟨original, -, rfl⟩ := List.mem_map.1 listed
      change isEnabled original.id past = true at on
      rw [show original.id = rule.id from same] at on
      exact enabled on
    rw [judge_other host unjudged, if_neg fun judged => enabled judged.2]
    exact agrees.seen rule member

theorem Agrees.evaluate (agrees : Agrees past engine) (host : σ) (now : Instant) :
    Agrees (.evaluate host now :: past) (engine.perform (.evaluate host now)) := by
  simp only [perform]
  cases running : engine.running with
  | true =>
      rw [evaluateAt_running running]
      refine ⟨?_, agrees.running, fun rule member => agrees.judged running host now member, ?_⟩
      · change engine.rules.map _ = (registered past).map _
        rw [agrees.rules, List.map_map]
        apply List.map_congr_left
        intro rule member
        rw [current_evaluate]
        simp only [Function.comp, agrees.fires_iff running member]
      · intro id unknown
        have unjudged : ∀ rule ∈ engine.rules.filter Rule.enabled, rule.id ≠ id := by
          rintro rule judged rfl
          have listed : rule.id ∈ engine.rules.map Rule.id :=
            List.mem_map_of_mem (List.mem_filter.1 judged).1
          rw [agrees.ids] at listed
          exact unknown listed
        exact (judge_other host unjudged engine.seen).trans (agrees.unseen id unknown)
  | false =>
      have rests : ¬ isRunning past = true := by
        rw [← agrees.running, running]
        exact Bool.false_ne_true
      rw [evaluateAt_resting running]
      refine ⟨?_, agrees.running, ?_, agrees.unseen⟩
      · rw [agrees.rules]
        apply List.map_congr_left
        intro rule member
        rw [current_evaluate, if_neg fun fires => rests fires.running]
      · intro rule member
        simp only [held]
        rw [if_neg fun judged => rests judged.1]
        exact agrees.seen rule member

theorem Agrees.resetStatistics (agrees : Agrees past engine) :
    Agrees (.resetStatistics :: past) (engine.perform .resetStatistics) := by
  refine ⟨?_, agrees.running, agrees.seen, agrees.unseen⟩
  change engine.rules.map Rule.withoutStatistics = (registered past).map _
  rw [agrees.rules, List.map_map]
  rfl

theorem Agrees.reset (agrees : Agrees past engine) :
    Agrees (.reset :: past) (engine.perform .reset) :=
  ⟨agrees.resetStatistics.rules, agrees.running, fun _ _ => rfl, fun _ _ => rfl⟩

/-- Every operation keeps an engine in agreement with its past. -/
theorem Agrees.perform (agrees : Agrees past engine) (operation : RuleOperation σ) :
    Agrees (operation :: past) (engine.perform operation) := by
  cases operation with
  | register rule => exact agrees.register rule
  | setEnabled id enabled => exact agrees.setEnabled id enabled
  | start => exact ⟨agrees.rules, rfl, agrees.seen, agrees.unseen⟩
  | stop => exact ⟨agrees.rules, rfl, agrees.seen, agrees.unseen⟩
  | evaluate host now => exact agrees.evaluate host now
  | resetStatistics => exact agrees.resetStatistics
  | reset => exact agrees.reset

theorem behind_agrees (past : Chronicle σ) : Agrees past (behind past) := by
  induction past with
  | nil => exact empty_agrees
  | cons operation past agrees => exact agrees.perform operation

/-! ## Passes -/

/-- The rules that fire are those that the past finds due. -/
theorem Agrees.firing (agrees : Agrees past engine) (running : engine.running = true) (host : σ)
    (now : Instant) :
    engine.rules.filter (engine.firesNow host now) =
      ((registered past).filter fun rule => Fires past host now rule).map (current past) := by
  rw [agrees.rules, List.filter_map]
  apply congrArg (List.map (current past))
  apply List.filter_congr
  intro rule member
  rw [Function.comp, Bool.eq_iff_iff, decide_eq_true_iff]
  exact agrees.fires_iff running member

/-- What a rule does does not depend on its past. -/
theorem perform_current (past : Chronicle σ) (rules : List (Rule σ)) (host : σ) :
    (rules.map (current past)).foldl Rule.perform host = rules.foldl Rule.perform host := by
  rw [List.foldl_map]
  rfl

/-- A pass runs the actions of the rules that the past finds due, on the host as it was. -/
theorem Agrees.evaluateAt (agrees : Agrees past engine) (host : σ) (now : Instant) :
    (engine.evaluateAt host now).2 =
      (((registered past).filter fun rule => Fires past host now rule).foldl Rule.perform host,
        ((registered past).filter fun rule => Fires past host now rule).map Rule.id) := by
  cases running : engine.running with
  | true =>
      rw [evaluateAt_running running]
      dsimp only
      rw [agrees.firing running, perform_current, List.map_map]
      rfl
  | false =>
      have none_fires : (registered past).filter (fun rule => Fires past host now rule) = [] := by
        rw [List.filter_eq_nil_iff]
        intro rule member fires
        have runs := (of_decide_eq_true fires).running
        rw [← agrees.running, running] at runs
        cases runs
      rw [evaluateAt_resting running, none_fires]
      rfl

end RuleEngine

end VisualNovel
