import VisualNovel.Proofs.Rules.Firing

/-!
# Registered rules

An engine takes in rules whose identifiers are neither blank nor in use, and no pass changes the
identifier of a rule. So the rules of an engine can be registered anew in another one.
-/

namespace VisualNovel

variable {σ : Type}

namespace RuleEngine

/-- No identifier is blank, and no two rules have the same one. -/
structure WellNamed (rules : List (Rule σ)) : Prop where
  distinct : (rules.map Rule.id).Nodup
  visible : ∀ rule ∈ rules, (Text.trimmed rule.id).isEmpty = false

variable {engine grown : RuleEngine σ} {rule : Rule σ} {rules others : List (Rule σ)}

/-- Whether rules are well named depends on their identifiers alone. -/
theorem WellNamed.ids (named : WellNamed rules) (same : others.map Rule.id = rules.map Rule.id) :
    WellNamed others where
  distinct := same ▸ named.distinct
  visible := by
    intro rule member
    have known : rule.id ∈ rules.map Rule.id := same ▸ List.mem_map_of_mem member
    obtain ⟨original, listed, identical⟩ := List.mem_map.1 known
    rw [← identical]
    exact named.visible original listed

theorem rule?_eq_none {id : String} :
    engine.rule? id = none ↔ id ∉ engine.rules.map Rule.id := by
  simp [rule?, List.find?_eq_none]

/-- A rule is taken in when its identifier is neither blank nor in use. -/
theorem register_ok_iff : engine.register rule = .ok grown ↔
    (Text.trimmed rule.id).isEmpty = false ∧ engine.rule? rule.id = none ∧
      grown = { engine with rules := engine.rules ++ [rule.withoutStatistics] } := by
  simp only [register]
  split
  · rename_i blank
    simp [blank]
  · rename_i visible
    split
    · rename_i used
      simp [Option.isSome_iff_ne_none.1 used]
    · rename_i free
      have unused : engine.rule? rule.id = none := by simpa using free
      have shown : (Text.trimmed rule.id).isEmpty = false := by simpa using visible
      rw [Except.ok.injEq]
      exact ⟨fun same => ⟨shown, unused, same.symm⟩, fun taken => taken.2.2.symm⟩

theorem WellNamed.register (named : WellNamed engine.rules)
    (registered : engine.register rule = .ok grown) : WellNamed grown.rules := by
  obtain ⟨shown, unused, rfl⟩ := register_ok_iff.1 registered
  constructor
  · rw [List.map_append, List.nodup_append]
    refine ⟨named.distinct, by simp, ?_⟩
    intro id known other added same
    rw [same, List.mem_singleton.1 added] at known
    exact rule?_eq_none.1 unused known
  · intro other member
    rcases List.mem_append.1 member with old | new
    · exact named.visible other old
    · rw [List.mem_singleton.1 new]
      exact shown

/-- Rules that an engine takes in are well named. -/
theorem WellNamed.registerAll (named : WellNamed engine.rules) (rules : List (Rule σ)) :
    WellNamed (registerAll rules engine).1.rules := by
  induction rules generalizing engine with
  | nil => exact named
  | cons rule rules ih =>
      simp only [RuleEngine.registerAll]
      split
      · rename_i grown registered
        exact ih (named.register registered)
      · exact named

/-- Well named rules are all taken in, as if they had never fired. -/
theorem WellNamed.registerAll_ok (named : WellNamed (engine.rules ++ rules)) :
    RuleEngine.registerAll rules engine =
      ({ engine with rules := engine.rules ++ rules.map Rule.withoutStatistics }, .ok ()) := by
  induction rules generalizing engine with
  | nil => simp [RuleEngine.registerAll]
  | cons rule rules ih =>
      have used : rule.id ∉ engine.rules.map Rule.id := by
        have distinct := named.distinct
        rw [List.map_append, List.nodup_append] at distinct
        exact fun member => distinct.2.2 _ member _ (List.mem_cons_self ..) rfl
      have registered := register_ok_iff.2 ⟨named.visible rule (by simp), rule?_eq_none.2 used, rfl⟩
      have rest : WellNamed (engine.rules ++ [rule.withoutStatistics] ++ rules) :=
        named.ids (by simp [Rule.withoutStatistics])
      simp only [RuleEngine.registerAll]
      rw [registered]
      dsimp only
      rw [ih rest]
      simp

theorem registerAll_runs (rules : List (Rule σ)) (engine : RuleEngine σ) :
    (registerAll rules engine).1.running = engine.running := by
  induction rules generalizing engine with
  | nil => rfl
  | cons rule rules ih =>
      simp only [registerAll]
      split
      · rename_i grown registered
        obtain ⟨-, -, rfl⟩ := register_ok_iff.1 registered
        exact ih _
      · rfl

theorem evaluateAt_runs [RuleHost σ] (engine : RuleEngine σ) (host : σ) (now : Int) :
    (engine.evaluateAt host now).1.running = engine.running := by
  simp only [evaluateAt]
  split <;> rfl

theorem reset_ids (engine : RuleEngine σ) :
    engine.reset.rules.map Rule.id = engine.rules.map Rule.id := by
  simp [reset, resetStatistics, Rule.withoutStatistics, Function.comp_def]

/-- A pass changes no identifier. -/
theorem evaluateAt_ids [RuleHost σ] (engine : RuleEngine σ) (host : σ) (now : Int) :
    (engine.evaluateAt host now).1.rules.map Rule.id = engine.rules.map Rule.id := by
  simp only [evaluateAt]
  split
  · dsimp only
    rw [fire_rules, List.map_map, List.map_map]
    apply List.map_congr_left
    intro rule _
    simp only [Function.comp_apply, noted]
    split <;> rfl
  · rfl

end RuleEngine

end VisualNovel
