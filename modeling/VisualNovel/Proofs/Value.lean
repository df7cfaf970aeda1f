import VisualNovel.Character
import VisualNovel.Proofs.Dict

/-!
# Equality of values

The equality of values is not reflexive, because an undefined number differs from itself. It is so
on values whose numbers are finite, and whatever equals something equals itself. Equal values refer
to the same item, and equal maps hold equal values under the same keys.
-/

namespace VisualNovel

/-! ## Numbers -/

open Float.Model in
theorem compare_self {number : UnpackedFloat} (real : number.isNaN = false) :
    number.compare number = some .eq := by
  cases number with
  | notANumber => cases real
  | infinity sign => cases sign <;> rfl
  | zero sign => rfl
  | finite sign mantissa exponent valid =>
      have same : (compare exponent exponent).then (compare mantissa mantissa) = .eq := by simp
      cases sign with
      | positive => exact congrArg some same
      | negative => exact congrArg (fun order => some order.swap) same

/-- A number equals itself unless it is undefined. -/
theorem float_beq_self {number : Float} (real : number.isNaN = false) :
    (number == number) = true := by
  change (number.toModel.unpack.compare number.toModel.unpack == some .eq) = true
  rw [compare_self real]
  rfl

theorem float_isNaN_of_isFinite {number : Float} (finite : number.isFinite = true) :
    number.isNaN = false := by
  change number.toModel.unpack.isFinite = true at finite
  change number.toModel.unpack.isNaN = false
  cases unpacked : number.toModel.unpack with
  | notANumber =>
      rw [unpacked] at finite
      cases finite
  | infinity sign => rfl
  | zero sign => rfl
  | finite sign mantissa exponent valid => rfl

/-- A number that equals something is not undefined. -/
theorem float_isNaN_of_beq {left right : Float} (equal : (left == right) = true) :
    left.isNaN = false := by
  change (left.toModel.unpack.compare right.toModel.unpack == some .eq) = true at equal
  change left.toModel.unpack.isNaN = false
  cases unpacked : left.toModel.unpack with
  | notANumber =>
      rw [unpacked] at equal
      cases equal
  | infinity sign => rfl
  | zero sign => rfl
  | finite sign mantissa exponent valid => rfl

namespace Value

/-! ## Reflexivity -/

mutual

/-- A value that equals something equals itself. -/
theorem same_self : {left right : Value} → same left right = true → same left left = true
  | .null, .null, _ => rfl
  | .bool left, .bool _, _ => by simp [same]
  | .int left, .int _, _ => by simp [same]
  | .float left, .float _, equal => by
      simp only [same] at equal ⊢
      exact float_beq_self (float_isNaN_of_beq equal)
  | .text left, .text _, _ => by simp [same]
  | .list left, .list _, equal => sameItems_self equal
  | .map left, .map _, equal => sameEntries_self equal

theorem sameItems_self : {lefts rights : List Value} →
    sameItems lefts rights = true → sameItems lefts lefts = true
  | [], _, _ => rfl
  | left :: lefts, right :: rights, equal => by
      simp only [sameItems, Bool.and_eq_true] at equal ⊢
      exact ⟨same_self equal.1, sameItems_self equal.2⟩

theorem sameEntries_self : {lefts rights : List (String × Value)} →
    sameEntries lefts rights = true → sameEntries lefts lefts = true
  | [], _, _ => rfl
  | (leftKey, left) :: lefts, (rightKey, right) :: rights, equal => by
      simp only [sameEntries, Bool.and_eq_true] at equal ⊢
      exact ⟨⟨beq_self_eq_true leftKey, same_self equal.1.2⟩, sameEntries_self equal.2⟩

end

mutual

/-- A value whose numbers are finite equals itself. -/
theorem same_of_finite : {path : String} → {value : Value} →
    value.nonFinite? path = none → same value value = true
  | _, .null, _ => rfl
  | _, .bool value, _ => by simp [same]
  | _, .int value, _ => by simp [same]
  | _, .float value, finite => by
      simp only [same]
      apply float_beq_self
      apply float_isNaN_of_isFinite
      simp only [nonFinite?] at finite
      split at finite
      · assumption
      · cases finite
  | _, .text value, _ => by simp [same]
  | _, .list items, finite => sameItems_of_finite finite
  | _, .map entries, finite => sameEntries_of_finite finite

theorem sameItems_of_finite : {path : String} → {index : Nat} → {items : List Value} →
    nonFiniteItem? path index items = none → sameItems items items = true
  | _, _, [], _ => rfl
  | path, index, item :: items, finite => by
      simp only [nonFiniteItem?, Option.or_eq_none_iff] at finite
      simp only [sameItems, Bool.and_eq_true]
      exact ⟨same_of_finite finite.1, sameItems_of_finite finite.2⟩

theorem sameEntries_of_finite : {path : String} → {entries : List (String × Value)} →
    nonFiniteMember? path entries = none → sameEntries entries entries = true
  | _, [], _ => rfl
  | path, (key, value) :: entries, finite => by
      simp only [nonFiniteMember?, Option.or_eq_none_iff] at finite
      simp only [sameEntries, Bool.and_eq_true]
      exact ⟨⟨beq_self_eq_true key, same_of_finite finite.1⟩, sameEntries_of_finite finite.2⟩

end

/-! ## Look-ups -/

/-- Whether two look-ups find equal values, or both find nothing. -/
def agree : Option Value → Option Value → Bool
  | none, none => true
  | some left, some right => left == right
  | _, _ => false

theorem isSome_of_agree {left right : Option Value} (equal : agree left right = true) :
    left.isSome = right.isSome := by
  cases left with
  | none =>
      cases right with
      | none => rfl
      | some right => cases equal
  | some left =>
      cases right with
      | none => cases equal
      | some right => rfl

theorem agree_get? {lefts rights : List (String × Value)}
    (equal : sameEntries lefts rights = true) (key : String) :
    agree (Dict.get? lefts key) (Dict.get? rights key) = true := by
  induction lefts generalizing rights with
  | nil =>
      cases rights with
      | nil => rfl
      | cons entry rights => cases equal
  | cons entry lefts ih =>
      cases rights with
      | nil => cases equal
      | cons other rights =>
          obtain ⟨leftKey, left⟩ := entry
          obtain ⟨rightKey, right⟩ := other
          simp only [sameEntries, Bool.and_eq_true, beq_iff_eq] at equal
          obtain ⟨⟨rfl, first⟩, rest⟩ := equal
          simp only [Dict.get?]
          split
          · exact first
          · exact ih rest

/-- Maps in order are equal when their entries agree under every key. -/
theorem sameEntries_of_agree {lefts rights : Dict Value} (sortedLeft : Dict.Sorted lefts)
    (sortedRight : Dict.Sorted rights)
    (equal : ∀ key, agree (Dict.get? lefts key) (Dict.get? rights key) = true) :
    sameEntries lefts rights = true := by
  induction lefts generalizing rights with
  | nil =>
      cases rights with
      | nil => rfl
      | cons other rights =>
          have missing := equal other.1
          simp [Dict.get?, agree] at missing
  | cons entry lefts ih =>
      obtain ⟨leftKey, left⟩ := entry
      cases rights with
      | nil =>
          have missing := equal leftKey
          simp [Dict.get?, agree] at missing
      | cons other rights =>
          obtain ⟨rightKey, right⟩ := other
          have sameKey : leftKey = rightKey := sortedLeft.head_eq sortedRight fun key =>
            isSome_of_agree (equal key)
          subst sameKey
          have first := equal leftKey
          simp only [Dict.get?, ↓reduceIte, agree] at first
          simp only [sameEntries, Bool.and_eq_true, beq_self_eq_true, true_and]
          refine ⟨first, ih sortedLeft.tail sortedRight.tail ?_⟩
          intro key
          by_cases same : leftKey = key
          · rw [← same, sortedLeft.distinct.get?_head, sortedRight.distinct.get?_head]
            rfl
          · have later := equal key
            simpa [Dict.get?, same] using later

theorem same_map_iff {lefts rights : Dict Value} (sortedLeft : Dict.Sorted lefts)
    (sortedRight : Dict.Sorted rights) :
    (Value.map lefts == Value.map rights) = true ↔
      ∀ key, agree (Dict.get? lefts key) (Dict.get? rights key) = true :=
  ⟨agree_get?, sameEntries_of_agree sortedLeft sortedRight⟩

/-! ## References to items -/

variable {left right : Value}

theorem itemIdText?_congr (equal : (left == right) = true) :
    itemIdText? left = itemIdText? right := by
  change same left right = true at equal
  unfold same at equal
  split at equal
  · rfl
  · rfl
  · rw [beq_iff_eq.1 equal]
  · rfl
  · rw [beq_iff_eq.1 equal]
  · rfl
  · rfl
  · cases equal

theorem agree_field (equal : (left == right) = true) (key : String) :
    agree (left.get? key) (right.get? key) = true := by
  change same left right = true at equal
  unfold same at equal
  split at equal
  · rfl
  · rfl
  · rfl
  · rfl
  · rfl
  · rfl
  · exact agree_get? equal key
  · cases equal

theorem bind_congr_of_agree {β : Type} {found other : Option Value} {look : Value → Option β}
    (respects : ∀ {left right : Value}, (left == right) = true → look left = look right)
    (equal : agree found other = true) : found.bind look = other.bind look := by
  cases found with
  | none =>
      cases other with
      | none => rfl
      | some right => cases equal
  | some left =>
      cases other with
      | none => cases equal
      | some right => exact respects equal

/-- Equal references are to the same item. -/
theorem slotItem?_congr (equal : (left == right) = true) : slotItem? left = slotItem? right := by
  have direct := bind_congr_of_agree itemIdText?_congr (agree_field equal "id")
  have nested : ((left.get? "item").bind fun item => item.get? "id").bind itemIdText? =
      ((right.get? "item").bind fun item => item.get? "id").bind itemIdText? := by
    rw [Option.bind_assoc, Option.bind_assoc]
    apply bind_congr_of_agree _ (agree_field equal "item")
    intro left right equal
    exact bind_congr_of_agree itemIdText?_congr (agree_field equal "id")
  have plain := itemIdText?_congr equal
  change same left right = true at equal
  unfold same at equal
  split at equal
  · rfl
  · rfl
  · exact plain
  · rfl
  · exact plain
  · rfl
  · simp only [slotItem?]
    rw [direct, nested]
  · cases equal

/-! ## Identifiers of items -/

theorem intText_isEmpty (number : Int64) : (intText number).isEmpty = false := by
  simp only [intText]
  change (Int.repr number.toInt).isEmpty = false
  cases number.toInt with
  | ofNat magnitude =>
      change magnitude.repr.isEmpty = false
      simp
  | negSucc magnitude =>
      change ("-" ++ magnitude.succ.repr).isEmpty = false
      simp

theorem itemIdText?_isEmpty {value : Value} {item : String}
    (named : value.itemIdText? = some item) : item.isEmpty = false := by
  cases value with
  | text content =>
      simp only [itemIdText?] at named
      split at named
      · cases named
      · rename_i nonempty
        cases named
        simpa using nonempty
  | int number =>
      cases named
      exact intText_isEmpty number
  | _ => cases named

theorem slotItem?_isEmpty {reference : Value} {item : String}
    (refers : reference.slotItem? = some item) : item.isEmpty = false := by
  cases reference with
  | map entries =>
      simp only [slotItem?, Option.or_eq_some_iff, Option.bind_eq_some_iff] at refers
      rcases refers with ⟨value, -, named⟩ | ⟨-, value, -, named⟩ <;>
        exact itemIdText?_isEmpty named
  | _ =>
      simp only [slotItem?] at refers
      exact itemIdText?_isEmpty refers

/-- The identifier of an item is a reference to it. -/
theorem slotItem?_text {reference : Value} {item : String}
    (refers : reference.slotItem? = some item) : (text item).slotItem? = some item := by
  change itemIdText? (.text item) = some item
  simp [itemIdText?, slotItem?_isEmpty refers]

/-- A text that refers to an item is its identifier. -/
theorem eq_of_slotItem?_text {content item : String}
    (refers : (text content).slotItem? = some item) : content = item := by
  simp only [slotItem?, itemIdText?] at refers
  split at refers
  · cases refers
  · exact Option.some.inj refers

end Value

end VisualNovel
