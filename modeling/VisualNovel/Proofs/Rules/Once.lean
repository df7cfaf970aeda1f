import Mathlib.Data.List.Nodup
import VisualNovel.Proofs.Rules.Passes
import VisualNovel.Session.Stage

/-!
# Rules that fire once

That a rule fired is known by its count, and the count goes when the statistics are cleared. So a
rule that fires once does so at most once in any stretch of operations that clears nothing, and may
do so once more behind each clearing.
-/

namespace VisualNovel

variable {σ : Type} [RuleHost σ]

namespace Chronicle

open RuleEngine

variable {past later earlier : Chronicle σ} {rule : Rule σ}

/-- How often a rule was among those that fired. -/
def answers (id : String) : Chronicle σ → Nat
  | [] => 0
  | .evaluate host now :: past =>
    ((behind past).evaluateAt host now).2.2.count id + answers id past
  | _ :: past => answers id past

omit [RuleHost σ] in
/-- How often the statistics were cleared, by themselves or by a reset. -/
def clearings : Chronicle σ → Nat
  | [] => 0
  | .resetStatistics :: past => clearings past + 1
  | .reset :: past => clearings past + 1
  | _ :: past => clearings past

omit [RuleHost σ] in
/-- What is registered stays so. -/
theorem registered_later (member : rule ∈ registered past) (operation : RuleOperation σ) :
    rule ∈ registered (operation :: past) := by
  cases operation with
  | register other =>
      simp only [registered]
      split
      · exact List.mem_append_left _ member
      · exact member
  | _ => exact member

omit [RuleHost σ] in
/-- A registered rule shares its identifier with no other. -/
theorem eq_of_registered {other : Rule σ} (member : rule ∈ registered past)
    (also : other ∈ registered past) (same : other.id = rule.id) : other = rule :=
  List.inj_on_of_nodup_map (registered_nodup past) also member same

/-- A pass names a rule if it fires, and not otherwise. -/
theorem mem_fired (owner : ∀ other ∈ registered past, other.id = rule.id → other = rule)
    (host : σ) (now : Instant) :
    rule.id ∈ ((behind past).evaluateAt host now).2.2 ↔ Fires past host now rule := by
  have fired := congrArg Prod.snd ((behind_agrees past).evaluateAt host now)
  rw [fired, List.mem_map]
  constructor
  · rintro ⟨other, listed, same⟩
    obtain ⟨known, fires⟩ := List.mem_filter.1 listed
    rw [← owner other known same]
    exact of_decide_eq_true fires
  · intro fires
    -- Only a registered rule is enabled, and under this identifier there is no other.
    obtain ⟨other, known, same⟩ := List.mem_map.1 (knows_of_isEnabled fires.enabled)
    rw [owner other known same] at known
    exact ⟨rule, List.mem_filter.2 ⟨known, decide_eq_true fires⟩, rfl⟩

/-- A pass names no rule twice. -/
theorem fired_nodup (past : Chronicle σ) (host : σ) (now : Instant) :
    ((behind past).evaluateAt host now).2.2.Nodup := by
  have fired := congrArg Prod.snd ((behind_agrees past).evaluateAt host now)
  rw [fired]
  exact (registered_nodup past).sublist (List.filter_sublist.map Rule.id)

theorem count_fired (owner : ∀ other ∈ registered past, other.id = rule.id → other = rule)
    (host : σ) (now : Instant) :
    ((behind past).evaluateAt host now).2.2.count rule.id =
      if Fires past host now rule then 1 else 0 := by
  rw [(fired_nodup past host now).count]
  exact if_congr (mem_fired owner host now) rfl rfl

/-- The firing that is left to a rule. -/
def unspent (rule : Rule σ) (past : Chronicle σ) : Nat :=
  if firings rule past = [] then 1 else 0

theorem unspent_le_one (rule : Rule σ) (past : Chronicle σ) : unspent rule past ≤ 1 := by
  simp only [unspent]
  split
  · exact Nat.le_refl 1
  · exact Nat.zero_le 1

/-- Of a rule that fires once, a pass that fires it uses up what is left. -/
theorem unspent_evaluate (once : rule.once = true) (past : Chronicle σ) (host : σ) (now : Instant) :
    unspent rule past = unspent rule (.evaluate host now :: past) +
      if Fires past host now rule then 1 else 0 := by
  by_cases fires : Fires past host now rule
  · have fired : firings rule (.evaluate host now :: past) = now :: firings rule past :=
      if_pos fires
    simp only [unspent]
    rw [fired, fires.first once, if_pos fires]
    rfl
  · have rested : firings rule (.evaluate host now :: past) = firings rule past := if_neg fires
    simp only [unspent]
    rw [rested, if_neg fires]
    rfl

/-- What fired, and what is left, is at most one and what was cleared. -/
theorem answers_unspent (once : rule.once = true) (member : rule ∈ registered (later ++ earlier)) :
    answers rule.id (later ++ earlier) + unspent rule (later ++ earlier) ≤
      answers rule.id earlier + clearings later + 1 := by
  have owner : ∀ other ∈ registered (later ++ earlier), other.id = rule.id → other = rule :=
    fun other known same => eq_of_registered member known same
  clear member
  induction later with
  | nil => exact Nat.add_le_add_left (unspent_le_one rule earlier) _
  | cons operation later ih =>
      have before := ih fun other known same => owner other (registered_later known operation) same
      rw [List.cons_append] at owner ⊢
      cases operation with
      | evaluate host now =>
          have named := count_fired
            (fun other known same => owner other (registered_later known _) same) host now
          have used := unspent_evaluate once (later ++ earlier) host now
          simp only [answers, clearings]
          rw [named]
          omega
      | resetStatistics =>
          have most := unspent_le_one rule (.resetStatistics :: (later ++ earlier))
          simp only [answers, clearings]
          omega
      | reset =>
          have most := unspent_le_one rule (.reset :: (later ++ earlier))
          simp only [answers, clearings]
          omega
      | _ => exact before

/-- In any stretch of operations, whatever the hosts and the times, a rule that fires once does so at
most once, and once more for each time that the statistics were cleared. Behind a clearing it fires
whenever it is due, however often it did before. -/
theorem answers_once (once : rule.once = true) (member : rule ∈ registered (later ++ earlier)) :
    answers rule.id (later ++ earlier) ≤ answers rule.id earlier + clearings later + 1 ∧
      ∀ host now,
        rule.id ∈ ((behind (.resetStatistics :: (later ++ earlier))).evaluateAt host now).2.2 ↔
          isRunning (later ++ earlier) = true ∧ isEnabled rule.id (later ++ earlier) = true ∧
            rule.conditionsHold host = true ∧
            (rule.mode = .onChange → held rule (later ++ earlier) = false) := by
  refine ⟨Nat.le_trans (Nat.le_add_right _ _) (answers_unspent once member), ?_⟩
  intro host now
  have owner : ∀ other ∈ registered (.resetStatistics :: (later ++ earlier)),
      other.id = rule.id → other = rule :=
    fun other known same => eq_of_registered member known same
  rw [mem_fired owner]
  constructor
  · intro fires
    exact ⟨fires.running, fires.enabled, fires.holds, fires.edge⟩
  · intro ⟨running, enabled, holds, edge⟩
    exact ⟨running, enabled, holds, edge, fun _ => rfl, .inr nofun⟩

/-- A rule without conditions that fires once. -/
def introduction : Rule Stage := { Rule.new "intro" with once := true }

/-- A stage before any story. -/
def quietStage : Stage := ⟨.new Library.empty.toContent .standard, none, []⟩

/-- The rule is registered and has fired, and did nothing in the next two passes, disabled in the
meantime or not. -/
def introduced : Chronicle Stage :=
  [.evaluate quietStage 3000, .setEnabled "intro" true, .evaluate quietStage 2000,
    .setEnabled "intro" false, .evaluate quietStage 1000, .start, .register introduction]

theorem answers_once_introduction :
    introduction.once = true ∧ introduction ∈ registered ([] ++ introduced) ∧
      answers "intro" (introduced ++ []) ≤ 1 ∧ answers "intro" introduced = 1 ∧
      "intro" ∈ ((behind (.resetStatistics :: introduced)).evaluateAt quietStage 4000).2.2 := by
  have member : introduction ∈ registered introduced := List.mem_singleton.2 rfl
  have once : introduction.once = true := rfl
  have most : answers "intro" (introduced ++ []) ≤ answers "intro" [] + clearings introduced + 1 :=
    (answers_once once (by rw [List.append_nil]; exact member)).1
  have again := fun host now => (@answers_once _ _ [] introduced _ once member).2 host now
  refine ⟨rfl, member, most, by decide +kernel, ?_⟩
  exact (again quietStage 4000).2 ⟨rfl, by decide +kernel, rfl, nofun⟩

end Chronicle

end VisualNovel
