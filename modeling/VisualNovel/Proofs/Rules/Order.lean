import VisualNovel.Proofs.Interpreter.Spending
import VisualNovel.Proofs.Rules.Tame

/-!
# Rules that keep maps in order

Without callbacks, a rule can put a map out of order only by a value that it sets. Documents are read
as values whose maps are in order, so rules that are read from a document keep them so.
-/

namespace VisualNovel

/-- Whether an action leaves the maps of the state in order. -/
def RuleAction.KeepsOrder (action : RuleAction Stage) : Prop :=
  ∀ stage, stage.interpreter.state.InOrder → (action.perform stage).interpreter.state.InOrder

/-- Whether a rule that fires leaves the maps of the state in order. -/
def Rule.KeepsOrder (rule : Rule Stage) : Prop :=
  ∀ stage, stage.interpreter.state.InOrder → (rule.perform stage).interpreter.state.InOrder

/-- An action without a callback keeps maps in order when the value that it sets does. -/
theorem RuleAction.keepsOrder {action : RuleAction Stage}
    (plain : ∀ run, action ≠ .callback run)
    (ordered : ∀ path value, action = .setVariable path value → value.Ordered) :
    action.KeepsOrder := by
  intro stage inOrder
  cases action with
  | goto target => exact ((Interpreter.goto_spends stage.interpreter target).state inOrder).1
  | setVariable path value =>
      exact (StateTree.write_marks stage.interpreter.state path (ordered path value rfl) inOrder).1
  | endStory =>
      exact ((Interpreter.complete_spends
        { stage.interpreter.clearDisplay with continuations := [] }).state inOrder).1
  | restartStory unitId =>
      exact ((Interpreter.restart_spends stage.interpreter unitId).state inOrder).1
  | notification message | dialogue character text | log message => exact inOrder
  | callback run => exact absurd rfl (plain run)

namespace Rule

theorem keepsOrder_timeless : Timeless KeepsOrder where
  forgotten := fun keeps => keeps
  triggered := fun _ keeps => keeps

/-- A rule without a callback keeps maps in order when its actions do. -/
theorem keepsOrder_of_actions {rule : Rule Stage} (silent : rule.onTriggered = none)
    (actions : ∀ action ∈ rule.actions, action.KeepsOrder) : rule.KeepsOrder := by
  intro stage inOrder
  simp only [perform]
  rw [silent]
  change (rule.actions.foldl RuleAction.perform stage).interpreter.state.InOrder
  generalize rule.actions = remaining at actions
  induction remaining generalizing stage with
  | nil => exact inOrder
  | cons action remaining ih =>
      have first := actions action (List.mem_cons_self ..) stage inOrder
      exact ih (action.perform stage) first fun other member =>
        actions other (List.mem_cons_of_mem action member)

end Rule

/-! ## Rules from documents -/

namespace Value

theorem ofInt_ordered (number : Int) : (ofInt number).Ordered := by
  simp only [ofInt]
  split
  · exact .int _
  · exact .float _

mutual

/-- Documents are read as values whose maps are in order. -/
theorem ofJson?_ordered : {document : Json} → {value : Value} →
    ofJson? document = some value → value.Ordered
  | .null, value, read => by
      cases read
      exact .null
  | .bool flag, value, read => by
      cases read
      exact .bool flag
  | .integer number, value, read => by
      cases read
      exact ofInt_ordered number
  | .real number, value, read => by
      cases read
      exact .float number
  | .text content, value, read => by
      cases read
      exact .text content
  | .array items, value, read => by
      obtain ⟨values, each, rfl⟩ := Option.map_eq_some_iff.1 read
      exact .list (itemsOfJson?_ordered each)
  | .object members, value, read => by
      obtain ⟨entries, each, rfl⟩ := Option.map_eq_some_iff.1 read
      exact union_ordered emptyMap_ordered (entriesOfJson?_ordered each)
  | .unreadable, value, read => by
      cases read

theorem itemsOfJson?_ordered : {items : List Json} → {values : List Value} →
    itemsOfJson? items = some values → ∀ value ∈ values, value.Ordered
  | [], values, read => by
      cases read
      exact fun value member => by cases member
  | item :: items, values, read => by
      simp only [itemsOfJson?] at read
      simp only [Option.bind_eq_bind, Option.bind_eq_some_iff, Option.some.injEq] at read
      obtain ⟨first, head, rest, tail, rfl⟩ := read
      intro value member
      rcases List.mem_cons.1 member with rfl | later
      · exact ofJson?_ordered head
      · exact itemsOfJson?_ordered tail value later

theorem entriesOfJson?_ordered : {members : List (String × Json)} →
    {entries : List (String × Value)} → entriesOfJson? members = some entries →
    ∀ entry ∈ entries, entry.2.Ordered
  | [], entries, read => by
      cases read
      exact fun entry member => by cases member
  | (key, document) :: members, entries, read => by
      simp only [entriesOfJson?] at read
      simp only [Option.bind_eq_bind, Option.bind_eq_some_iff, Option.some.injEq] at read
      obtain ⟨first, head, rest, tail, rfl⟩ := read
      intro entry member
      rcases List.mem_cons.1 member with rfl | later
      · exact ofJson?_ordered head
      · exact entriesOfJson?_ordered tail entry later

end

end Value

/-- A value that an action of a document sets has its maps in order. -/
theorem RuleAction.ofJson?_ordered {document : Json} {path : String} {value : Value}
    (read : RuleAction.ofJson? document = some (.setVariable path value : RuleAction Stage)) :
    value.Ordered := by
  simp only [RuleAction.ofJson?, Option.bind_eq_bind, Option.bind_eq_some_iff] at read
  obtain ⟨⟨kind, rest⟩, -, read⟩ := read
  simp only [RuleAction.ofKind?] at read
  split at read
  · simp [Option.bind_eq_bind, Option.bind_eq_some_iff, Option.map_eq_some_iff] at read
  · simp only [Option.bind_eq_bind, Option.bind_eq_some_iff] at read
    obtain ⟨fields, -, name, -, found, decoded, same⟩ := read
    cases same
    simp only [Json.Fields.orDefault?] at decoded
    split at decoded
    · cases decoded
      exact .null
    · exact Value.ofJson?_ordered decoded
  all_goals
    simp [Option.bind_eq_bind, Option.bind_eq_some_iff, Option.map_eq_some_iff] at read

/-- Rules that are read from a text keep maps in order. -/
theorem Rule.parseAll_keepsOrder {text : String} {rules : List (Rule Stage)}
    (read : parseAll text = .ok rules) {rule : Rule Stage} (member : rule ∈ rules) :
    rule.KeepsOrder := by
  obtain ⟨document, decoded⟩ := mem_parseAll read member
  obtain ⟨silent, -, actions⟩ := ofJson?_parts decoded
  apply keepsOrder_of_actions silent
  intro action known
  obtain ⟨item, itemRead⟩ := actions action known
  apply RuleAction.keepsOrder (ofJson?_plain itemRead)
  rintro path value rfl
  exact RuleAction.ofJson?_ordered itemRead

end VisualNovel
