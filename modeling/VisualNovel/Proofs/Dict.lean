import VisualNovel.Dict

/-!
# Dictionaries in ascending order

The operations keep the keys of a dictionary in ascending order. A dictionary in order is known by
its look-ups, and is rebuilt by adding its entries one by one.
-/

namespace VisualNovel.Dict

variable {α β : Type} {entries additions : Dict α} {key wanted : String} {value : α}

/-! ## Entries and look-ups -/

theorem mem_of_get? (found : get? entries key = some value) : (key, value) ∈ entries := by
  induction entries with
  | nil => cases found
  | cons entry rest ih =>
      obtain ⟨other, kept⟩ := entry
      simp only [get?] at found
      split at found
      · rename_i same
        cases found
        rw [same]
        exact List.mem_cons_self ..
      · exact List.mem_cons_of_mem _ (ih found)

theorem get?_eq_none (absent : ∀ entry ∈ entries, entry.1 ≠ key) : get? entries key = none := by
  induction entries with
  | nil => rfl
  | cons entry rest ih =>
      obtain ⟨other, kept⟩ := entry
      have different : other ≠ key := absent _ (List.mem_cons_self ..)
      simp only [get?, if_neg different]
      exact ih fun entry member => absent entry (List.mem_cons_of_mem _ member)

theorem mem_insert {entry : String × α} (member : entry ∈ insert key value entries) :
    entry = (key, value) ∨ entry ∈ entries := by
  induction entries with
  | nil => simpa [insert] using member
  | cons head rest ih =>
      obtain ⟨other, kept⟩ := head
      simp only [insert] at member
      split at member
      · rcases List.mem_cons.1 member with same | old
        · exact .inl same
        · exact .inr (List.mem_cons_of_mem _ old)
      · split at member
        · exact List.mem_cons.1 member
        · rcases List.mem_cons.1 member with same | later
          · exact .inr (List.mem_cons.2 (.inl same))
          · rcases ih later with same | old
            · exact .inl same
            · exact .inr (List.mem_cons_of_mem _ old)

theorem mem_keys : key ∈ keys entries ↔ (get? entries key).isSome = true := by
  simp only [keys]
  induction entries with
  | nil => simp
  | cons entry rest ih =>
      obtain ⟨other, kept⟩ := entry
      simp only [List.map_cons, List.mem_cons, get?, ih]
      by_cases same : other = key
      · simp [same]
      · simp [same, Ne.symm same]

theorem get?_map (transform : String → α → β) (entries : Dict α) (wanted : String) :
    get? (entries.map fun entry => (entry.1, transform entry.1 entry.2)) wanted =
      (get? entries wanted).map (transform wanted) := by
  induction entries with
  | nil => rfl
  | cons entry rest ih =>
      obtain ⟨other, kept⟩ := entry
      simp only [List.map_cons, get?]
      split
      · rename_i same
        rw [same]
        rfl
      · exact ih

/-! ## Order -/

theorem Sorted.head_lt {rest : Dict α} (sorted : Sorted ((key, value) :: rest)) :
    ∀ entry ∈ rest, key < entry.1 :=
  (List.pairwise_cons.1 sorted).1

theorem Sorted.tail {entry : String × α} {rest : Dict α} (sorted : Sorted (entry :: rest)) :
    Sorted rest :=
  (List.pairwise_cons.1 sorted).2

theorem Sorted.insert (sorted : Sorted entries) (key : String) (value : α) :
    Sorted (insert key value entries) := by
  induction entries with
  | nil => exact List.pairwise_singleton _ _
  | cons head rest ih =>
      obtain ⟨other, kept⟩ := head
      have before := sorted.head_lt
      simp only [Dict.insert]
      split
      · rename_i same
        rw [same]
        exact List.pairwise_cons.2 ⟨before, sorted.tail⟩
      · rename_i different
        split
        · rename_i less
          apply List.pairwise_cons.2
          refine ⟨?_, sorted⟩
          intro entry member
          rcases List.mem_cons.1 member with rfl | later
          · exact less
          · exact String.lt_trans less (before entry later)
        · rename_i notLess
          apply List.pairwise_cons.2
          refine ⟨?_, ih sorted.tail⟩
          intro entry member
          rcases mem_insert member with rfl | old
          · have greater : other < key := by grind
            exact greater
          · exact before entry old

theorem Sorted.erase (sorted : Sorted entries) (key : String) : Sorted (erase key entries) :=
  List.Pairwise.filter _ sorted

theorem Sorted.filter (sorted : Sorted entries) (keep : String × α → Bool) :
    Sorted (entries.filter keep) :=
  List.Pairwise.filter _ sorted

theorem Sorted.union (sorted : Sorted entries) (additions : List (String × α)) :
    Sorted (union entries additions) := by
  simp only [Dict.union]
  induction additions generalizing entries with
  | nil => exact sorted
  | cons entry additions ih => exact ih (sorted.insert entry.1 entry.2)

theorem Sorted.map (sorted : Sorted entries) (transform : String × α → β) :
    Sorted (entries.map fun entry => (entry.1, transform entry)) :=
  List.pairwise_map.2 sorted

theorem Sorted.get?_of_mem (sorted : Sorted entries) (member : (key, value) ∈ entries) :
    get? entries key = some value := by
  induction entries with
  | nil => cases member
  | cons entry rest ih =>
      obtain ⟨other, kept⟩ := entry
      rcases List.mem_cons.1 member with same | later
      · cases same
        simp [get?]
      · have less := sorted.head_lt _ later
        have different : other ≠ key := by
          rintro rfl
          exact String.lt_irrefl _ less
        simp only [get?, if_neg different]
        exact ih sorted.tail later

theorem Sorted.mem_iff_get? (sorted : Sorted entries) :
    (key, value) ∈ entries ↔ get? entries key = some value :=
  ⟨sorted.get?_of_mem, mem_of_get?⟩

/-- A dictionary has a new entry in the place of the one with its key. -/
theorem Sorted.mem_insert_iff (sorted : Sorted entries) {entry : String × α} :
    entry ∈ Dict.insert key value entries ↔
      entry = (key, value) ∨ entry ∈ entries ∧ entry.1 ≠ key := by
  obtain ⟨other, held⟩ := entry
  rw [(sorted.insert key value).mem_iff_get?, sorted.mem_iff_get?, get?_insert]
  by_cases same : key = other
  · subst same
    simp [eq_comm]
  · simp [same, Ne.symm same]

/-- A key below all others has no entry. -/
theorem get?_eq_none_of_lt (below : ∀ entry ∈ entries, key < entry.1) : get? entries key = none :=
  get?_eq_none fun entry member same => by
    have less := below entry member
    rw [same] at less
    exact String.lt_irrefl _ less

/-- Dictionaries in order with the same keys begin with the same key. -/
theorem Sorted.head_eq {left : Dict α} {right : Dict β} {leftKey rightKey : String} {leftValue : α}
    {rightValue : β} (sortedLeft : Sorted ((leftKey, leftValue) :: left))
    (sortedRight : Sorted ((rightKey, rightValue) :: right))
    (same : ∀ key, (get? ((leftKey, leftValue) :: left) key).isSome =
      (get? ((rightKey, rightValue) :: right) key).isSome) : leftKey = rightKey := by
  by_cases less : leftKey < rightKey
  · have found := same leftKey
    have unequal : rightKey ≠ leftKey := by grind
    have absent : get? right leftKey = none := get?_eq_none_of_lt fun entry member =>
      String.lt_trans less (sortedRight.head_lt entry member)
    simp [get?, unequal, absent] at found
  · by_cases equal : leftKey = rightKey
    · exact equal
    · have greater : rightKey < leftKey := by grind
      have found := same rightKey
      have absent : get? left rightKey = none := get?_eq_none_of_lt fun entry member =>
        String.lt_trans greater (sortedLeft.head_lt entry member)
      simp [get?, equal, absent] at found

/-- Dictionaries in order with the same look-ups are the same. -/
theorem Sorted.ext {left right : Dict α} (sortedLeft : Sorted left) (sortedRight : Sorted right)
    (same : ∀ key, get? left key = get? right key) : left = right := by
  induction left generalizing right with
  | nil =>
      cases right with
      | nil => rfl
      | cons entry rest =>
          have found := same entry.1
          simp [get?] at found
  | cons entry rest ih =>
      obtain ⟨key, value⟩ := entry
      cases right with
      | nil =>
          have found := same key
          simp [get?] at found
      | cons other others =>
          obtain ⟨otherKey, otherValue⟩ := other
          have keys : key = otherKey := sortedLeft.head_eq sortedRight fun wanted => by
            rw [same wanted]
          subst keys
          have values := same key
          simp only [get?, ↓reduceIte, Option.some.injEq] at values
          rw [values]
          congr 1
          apply ih sortedLeft.tail sortedRight.tail
          intro wanted
          have found := same wanted
          by_cases equal : key = wanted
          · subst equal
            rw [get?_eq_none_of_lt sortedLeft.head_lt, get?_eq_none_of_lt sortedRight.head_lt]
          · simpa [get?, equal] using found

/-! ## Filters and unions -/

/-- No two entries have the same key. -/
def Distinct (entries : List (String × α)) : Prop :=
  entries.Pairwise fun left right => left.1 ≠ right.1

theorem Sorted.distinct (sorted : Sorted entries) : Distinct entries := by
  apply List.Pairwise.imp _ sorted
  intro left right less same
  rw [same] at less
  exact String.lt_irrefl _ less

theorem Distinct.get?_head {rest : List (String × α)} (distinct : Distinct ((key, value) :: rest)) :
    get? rest key = none :=
  get?_eq_none fun entry member same => (List.pairwise_cons.1 distinct).1 entry member same.symm

theorem get?_filter (distinct : Distinct entries) (keep : String × α → Bool) (wanted : String) :
    get? (entries.filter keep) wanted =
      (get? entries wanted).filter fun value => keep (wanted, value) := by
  induction entries with
  | nil => rfl
  | cons entry rest ih =>
      obtain ⟨other, kept⟩ := entry
      have rest_eq := ih (List.pairwise_cons.1 distinct).2
      simp only [List.filter_cons]
      by_cases same : other = wanted
      · subst same
        rw [distinct.get?_head] at rest_eq
        split <;> simp_all [get?, Option.filter]
      · split <;> simp_all [get?]

/-- The entries that are kept with another value. -/
theorem mem_filterMap (choose : String → α → Option β) {entry : String × β}
    (member : entry ∈ entries.filterMap fun entry =>
      (choose entry.1 entry.2).map fun value => (entry.1, value)) :
    ∃ value, (entry.1, value) ∈ entries ∧ choose entry.1 value = some entry.2 := by
  obtain ⟨⟨key, value⟩, present, chosen⟩ := List.mem_filterMap.1 member
  obtain ⟨kept, made, rfl⟩ := Option.map_eq_some_iff.1 chosen
  exact ⟨value, present, made⟩

theorem Sorted.filterMap (sorted : Sorted entries) (choose : String → α → Option β) :
    Sorted (entries.filterMap fun entry =>
      (choose entry.1 entry.2).map fun value => (entry.1, value)) := by
  induction entries with
  | nil => exact List.Pairwise.nil
  | cons entry rest ih =>
      obtain ⟨key, value⟩ := entry
      simp only [List.filterMap_cons]
      cases choose key value with
      | none => exact ih sorted.tail
      | some made =>
          refine List.pairwise_cons.2 ⟨?_, ih sorted.tail⟩
          intro other member
          obtain ⟨kept, present, -⟩ := mem_filterMap choose member
          exact sorted.head_lt _ present

theorem get?_filterMap (distinct : Distinct entries) (choose : String → α → Option β)
    (wanted : String) :
    get? (entries.filterMap fun entry =>
      (choose entry.1 entry.2).map fun value => (entry.1, value)) wanted =
        (get? entries wanted).bind (choose wanted) := by
  induction entries with
  | nil => rfl
  | cons entry rest ih =>
      obtain ⟨key, value⟩ := entry
      have rest_eq := ih (List.pairwise_cons.1 distinct).2
      simp only [List.filterMap_cons, get?]
      by_cases same : key = wanted
      · subst same
        rw [distinct.get?_head] at rest_eq
        rw [if_pos rfl, Option.bind_some]
        cases choose key value with
        | none => exact rest_eq
        | some made => simp [get?]
      · rw [if_neg same, ← rest_eq]
        cases choose key value with
        | none => rfl
        | some made => simp [get?, same]

/-- What is added to a dictionary hides what it held before. -/
theorem get?_union (distinct : Distinct additions) (entries : Dict α) (wanted : String) :
    get? (union entries additions) wanted = (get? additions wanted).or (get? entries wanted) := by
  simp only [union]
  induction additions generalizing entries with
  | nil => rfl
  | cons entry additions ih =>
      obtain ⟨other, kept⟩ := entry
      simp only [List.foldl_cons]
      rw [ih (List.pairwise_cons.1 distinct).2, get?_insert]
      simp only [get?]
      split
      · rename_i same
        rw [← same, distinct.get?_head]
        rfl
      · rfl

/-- Adding the same entries again changes nothing. -/
theorem Sorted.union_union (sorted : Sorted entries) (distinct : Distinct additions) :
    Dict.union (Dict.union entries additions) additions = Dict.union entries additions := by
  apply ((sorted.union additions).union additions).ext (sorted.union additions)
  intro wanted
  rw [get?_union distinct, get?_union distinct, ← Option.or_assoc, Option.or_self]

/-- A dictionary in order is made of its entries. -/
theorem Sorted.ofPairs_eq (sorted : Sorted entries) : ofPairs entries = entries := by
  have ordered : Sorted (ofPairs entries) := Sorted.union List.Pairwise.nil entries
  apply ordered.ext sorted
  intro key
  simp only [ofPairs]
  rw [get?_union sorted.distinct]
  simp

/-! ## Keys -/

/-- A later value takes the place of an earlier one under the same key. -/
theorem insert_insert (entries : Dict α) (key : String) (first second : α) :
    insert key second (insert key first entries) = insert key second entries := by
  induction entries with
  | nil => simp [insert]
  | cons entry rest ih =>
      obtain ⟨other, kept⟩ := entry
      by_cases same : key = other
      · simp [insert, same]
      · by_cases less : key < other
        · simp [insert, same, less]
        · simp [insert, same, less, ih]

/-- Storing what is there already changes nothing. -/
theorem Sorted.insert_same (sorted : Sorted entries) (found : get? entries key = some value) :
    Dict.insert key value entries = entries := by
  have inserted : Sorted (Dict.insert key value entries) := sorted.insert key value
  apply inserted.ext sorted
  intro wanted
  rw [get?_insert]
  split
  · rename_i same
    rw [← same, found]
  · rfl

/-- A list of keys with a value for each. -/
theorem get?_tabulate (keys : List String) (value : String → α) (wanted : String) :
    get? (keys.map fun key => (key, value key)) wanted =
      if keys.contains wanted then some (value wanted) else none := by
  induction keys with
  | nil => rfl
  | cons key keys ih =>
      simp only [List.map_cons, get?]
      by_cases same : key = wanted
      · subst same
        simp
      · rw [if_neg same, ih]
        simp [Ne.symm same]

theorem mem_keys_union : key ∈ keys (union entries additions) ↔
    key ∈ keys entries ∨ key ∈ additions.map Prod.fst := by
  simp only [union]
  induction additions generalizing entries with
  | nil => simp
  | cons entry additions ih =>
      rw [List.foldl_cons, ih, mem_keys, get?_insert, mem_keys, List.map_cons, List.mem_cons]
      by_cases same : entry.1 = key
      · simp [same]
      · simp [same, Ne.symm same]

end VisualNovel.Dict
