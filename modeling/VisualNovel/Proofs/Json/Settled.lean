import VisualNovel.Proofs.Saves.Documents

/-!
# Documents in canonical form

Records that tell their kind apart are read from the canonical form of a document, with the members
of every object in ascending order of their names. What is read by name is read from this form as
from the members that were written: `Carries` says that a document is as good as a list of members,
for readers that look up some names.
-/

namespace VisualNovel

namespace Dict

variable {α : Type}

theorem lookup_eq_get? (entries : List (String × α)) (name : String) :
    entries.lookup name = get? entries name := by
  induction entries with
  | nil => rfl
  | cons entry entries ih =>
      obtain ⟨key, value⟩ := entry
      rw [List.lookup_cons, get?, ih]
      by_cases same : key = name
      · subst same
        rw [if_pos rfl, beq_self_eq_true]
      · rw [if_neg same, beq_false_of_ne (Ne.symm same)]

theorem lookup_eq_none {entries : List (String × α)} {name : String}
    (absent : name ∉ entries.map Prod.fst) : entries.lookup name = none := by
  rw [lookup_eq_get?]
  apply get?_eq_none
  intro entry listed same
  exact absent (same ▸ List.mem_map_of_mem listed)

/-- The dictionary of pairs with distinct names holds what the pairs hold. -/
theorem lookup_ofPairs {pairs : List (String × α)} (distinct : (pairs.map Prod.fst).Nodup)
    (name : String) : (ofPairs pairs).lookup name = pairs.lookup name := by
  rw [lookup_eq_get?, lookup_eq_get?, ofPairs, get?_union (List.pairwise_map.1 distinct),
    get?_nil, Option.or_none]

theorem mem_union {entries additions : Dict α} {entry : String × α}
    (member : entry ∈ union entries additions) : entry ∈ entries ∨ entry ∈ additions := by
  simp only [union] at member
  induction additions generalizing entries with
  | nil => exact .inl member
  | cons addition additions ih =>
      rcases ih member with inserted | later
      · rcases mem_insert inserted with same | old
        · exact .inr (same ▸ List.mem_cons_self ..)
        · exact .inl old
      · exact .inr (List.mem_cons_of_mem addition later)

/-- Without repeated names, one entry has the name that is looked up. -/
theorem filter_named {entries : List (String × α)} (distinct : Distinct entries) {name : String}
    {value : α} (found : entries.lookup name = some value) :
    entries.filter (fun entry => entry.1 = name) = [(name, value)] := by
  induction entries with
  | nil => cases found
  | cons entry entries ih =>
      obtain ⟨key, held⟩ := entry
      obtain ⟨apart, distinct⟩ := List.pairwise_cons.1 distinct
      rw [List.lookup_cons] at found
      by_cases same : name = key
      · subst same
        rw [beq_self_eq_true] at found
        cases found
        rw [List.filter_cons, if_pos (decide_eq_true rfl), List.filter_eq_nil_iff.2]
        intro other listed again
        exact apart other listed (of_decide_eq_true again).symm
      · rw [beq_false_of_ne same] at found
        rw [List.filter_cons, if_neg, ih distinct found]
        exact fun again => same (of_decide_eq_true again).symm

theorem ofPairs_nodup (pairs : List (String × α)) : ((ofPairs pairs).map Prod.fst).Nodup :=
  List.pairwise_map.2 (Sorted.distinct (Sorted.union List.Pairwise.nil pairs))

end Dict

namespace Json

mutual

/-- The canonical form of what the text of a document shows. -/
def settled : Json → Json
  | .null => .null
  | .bool value => .bool value
  | .integer value => .integer value
  | .real value => if value.isFinite then .real value else .null
  | .text value => .text value
  | .array items => .array (settledItems items)
  | .object members => .object (Dict.ofPairs (settledMembers members))
  | .unreadable => .null

/-- The items of a list in canonical form. -/
def settledItems : List Json → List Json
  | [] => []
  | item :: items => settled item :: settledItems items

/-- The members of an object in canonical form, not yet in order. -/
def settledMembers : List (String × Json) → List (String × Json)
  | [] => []
  | (name, value) :: members => (name, settled value) :: settledMembers members

end

theorem settledItems_eq_map (items : List Json) : settledItems items = items.map settled := by
  induction items with
  | nil => rfl
  | cons item items ih => rw [settledItems, ih, List.map_cons]

theorem settledMembers_eq_map (members : Fields) :
    settledMembers members = members.map fun member => (member.1, member.2.settled) := by
  induction members with
  | nil => rfl
  | cons member members ih => rw [settledMembers, ih, List.map_cons]

mutual

/-- What a text shows has a canonical form. -/
theorem canonical?_written : (document : Json) →
    canonical? document.written = some document.settled
  | .null | .bool _ | .integer _ | .text _ | .unreadable => rfl
  | .real value => by
      simp only [written, settled]
      split <;> rfl
  | .array items => by
      rw [written, canonical?, canonicalItems?_written items]
      rfl
  | .object members => by
      rw [written, canonical?, canonicalMembers?_written members]
      rfl

theorem canonicalItems?_written : (items : List Json) →
    canonicalItems? (writtenItems items) = some (settledItems items)
  | [] => rfl
  | item :: items => by
      rw [writtenItems, canonicalItems?, canonical?_written item, canonicalItems?_written items]
      rfl

theorem canonicalMembers?_written : (members : Fields) →
    canonicalMembers? (writtenMembers members) = some (settledMembers members)
  | [] => rfl
  | (name, value) :: members => by
      rw [writtenMembers, canonicalMembers?, canonical?_written value,
        canonicalMembers?_written members]
      rfl

end

/-- The canonical form of an object keeps the names of its members. -/
theorem canonicalMembers?_names {members others : Fields}
    (canonical : canonicalMembers? members = some others) :
    others.map Prod.fst = members.map Prod.fst := by
  induction members generalizing others with
  | nil =>
      cases canonical
      rfl
  | cons member members ih =>
      simp only [canonicalMembers?, Option.bind_eq_bind, Option.bind_eq_some_iff,
        Option.some.injEq] at canonical
      obtain ⟨first, -, rest, found, same⟩ := canonical
      rw [← same, List.map_cons, List.map_cons, ih found]

theorem membersReadable_iff (members : Fields) :
    membersReadable members = true ↔ ∀ member ∈ members, member.2.isReadable = true := by
  induction members with
  | nil => simp [membersReadable]
  | cons member members ih => simp [membersReadable, ih]

mutual

/-- The canonical form is readable as a whole. -/
theorem isReadable_settled : (document : Json) → document.settled.isReadable = true
  | .null | .bool _ | .integer _ | .text _ | .unreadable => rfl
  | .real value => by
      simp only [settled]
      split <;> rfl
  | .array items => areReadable_settledItems items
  | .object members => by
      rw [settled, isReadable, membersReadable_iff]
      intro member listed
      rcases Dict.mem_union listed with absurd | given
      · cases absurd
      · exact settledMembers_readable members member given

theorem areReadable_settledItems : (items : List Json) → areReadable (settledItems items) = true
  | [] => rfl
  | item :: items => by
      rw [settledItems, areReadable, isReadable_settled item, areReadable_settledItems items]
      rfl

theorem settledMembers_readable : (members : Fields) →
    ∀ member ∈ settledMembers members, member.2.isReadable = true
  | [] => by
      intro member absurd
      cases absurd
  | (name, value) :: members => by
      intro member listed
      rcases List.mem_cons.1 listed with same | later
      · rw [same]
        exact isReadable_settled value
      · exact settledMembers_readable members member later

end

/-! ## Reading by names -/

/-- The document is a readable object without repeated names, and holds under each of the names what
the members hold, in canonical form. -/
def Carries (names : List String) (document : Json) (members : Fields) : Prop :=
  ∃ others : Fields, document = .object others ∧ (others.map Prod.fst).Nodup ∧
    membersReadable others = true ∧
    ∀ name ∈ names, others.lookup name = (members.lookup name).map settled

variable {names : List String} {document : Json} {members others : Fields}

/-- The canonical form of an object carries its members. -/
theorem settled_carries (distinct : (members.map Prod.fst).Nodup) (names : List String) :
    Carries names (settled (.object members)) members := by
  have kept : (settledMembers members).map Prod.fst = members.map Prod.fst := by
    rw [settledMembers_eq_map, List.map_map]
    rfl
  have looked : ∀ name, (settledMembers members).lookup name = (members.lookup name).map settled := by
    intro name
    rw [settledMembers_eq_map, Dict.lookup_eq_get?, Dict.lookup_eq_get?]
    exact Dict.get?_map (fun _ => settled) members name
  refine ⟨Dict.ofPairs (settledMembers members), rfl, Dict.ofPairs_nodup _, ?_, ?_⟩
  · exact isReadable_settled (.object members)
  · intro name listed
    rw [Dict.lookup_ofPairs (kept ▸ distinct), looked]

theorem Carries.congr (carries : Carries names document members) {kept : List String}
    (listed : ∀ name ∈ kept, name ∈ names)
    (same : ∀ name ∈ kept, members.lookup name = others.lookup name) :
    Carries kept document others := by
  obtain ⟨found, shape, distinct, readable, looked⟩ := carries
  refine ⟨found, shape, distinct, readable, ?_⟩
  intro name wanted
  rw [looked name (listed name wanted), same name wanted]

/-- A tag in front of the members is not among the names of a record. -/
theorem Carries.untagged {tag : Json} (carries : Carries names document (("type", tag) :: members))
    (apart : "type" ∉ names) : Carries names document members := by
  apply carries.congr fun _ listed => listed
  intro name listed
  have other : name ≠ "type" := by
    intro same
    subst same
    exact apart listed
  rw [List.lookup_cons, beq_false_of_ne other]

/-- The fields of a record are read as the members. -/
theorem Carries.recordFields? (carries : Carries names document members) :
    ∃ fields : Fields, recordFields? names document = some fields ∧
      ∀ name ∈ names, fields.lookup name = (members.lookup name).map settled := by
  obtain ⟨found, shape, distinct, -, looked⟩ := carries
  subst shape
  refine ⟨found.filter fun member => names.contains member.1, ?_, ?_⟩
  · rw [recordFields?_members, knownMembers?, if_pos]
    exact (List.filter_sublist.map Prod.fst).nodup distinct
  · intro name listed
    rw [← looked name listed, Dict.lookup_eq_get?, Dict.lookup_eq_get?]
    rw [Dict.get?_filter (List.pairwise_map.1 distinct) fun member => names.contains member.1]
    cases Dict.get? found name with
    | none => rfl
    | some value => simp [Option.filter, listed]

/-- A record that tells its kind apart is taken apart into the kind and the other members. -/
theorem Carries.tagged? (carries : Carries names document members) {kinds : List String}
    {kind : String} (listed : "type" ∈ names) (tag : members.lookup "type" = some (.text kind))
    (known : kind ∈ kinds) (positions : Bool) :
    ∃ rest, tagged? kinds positions document = some (kind, rest) ∧
      ∀ kept : List String, (∀ name ∈ kept, name ∈ names ∧ name ≠ "type") →
        Carries kept rest members := by
  obtain ⟨found, shape, distinct, readable, looked⟩ := carries
  subst shape
  have tagged := looked "type" listed
  rw [tag] at tagged
  have others : membersReadable (found.filter fun member => member.1 ≠ "type") = true := by
    rw [membersReadable_iff] at readable ⊢
    intro member kept
    exact readable member (List.mem_of_mem_filter kept)
  refine ⟨.object (found.filter fun member => member.1 ≠ "type"), ?_, ?_⟩
  · rw [Json.tagged?, Dict.filter_named (List.pairwise_map.1 distinct) tagged]
    dsimp only
    rw [if_pos others]
    simp [settled, kindName?, known]
  · intro kept listed
    refine ⟨_, rfl, (List.filter_sublist.map Prod.fst).nodup distinct, others, ?_⟩
    intro name wanted
    obtain ⟨wanted, other⟩ := listed name wanted
    rw [← looked name wanted, Dict.lookup_eq_get?, Dict.lookup_eq_get?]
    rw [Dict.get?_filter (List.pairwise_map.1 distinct) fun member => member.1 ≠ "type"]
    cases Dict.get? found name with
    | none => rfl
    | some value => simp [Option.filter, other]

/-! ## Fields -/

theorem names_optionalMember {α : Type} (name : String) (encode : α → Json) (value : Option α) :
    ((optionalMember name encode value).map Prod.fst).Sublist [name] := by
  cases value with
  | none => exact List.nil_sublist [name]
  | some value => exact List.Sublist.refl [name]

@[simp] theorem lookup_optionalMember {α : Type} (name wanted : String) (encode : α → Json)
    (value : Option α) :
    (optionalMember name encode value).lookup wanted =
      if wanted = name then value.map encode else none := by
  cases value with
  | none => simp [optionalMember]
  | some value =>
      by_cases same : wanted = name
      · simp [optionalMember, same]
      · simp [optionalMember, same, List.lookup_cons, beq_false_of_ne same]

namespace Fields

variable {α : Type} {fields : Fields} {name : String} {decode : Json → Option α}

theorem required?_of_lookup (found : fields.lookup name = some document) :
    fields.required? name decode = decode document := by
  rw [required?, found, Option.bind_some]

theorem orDefault?_of_lookup {default : α} (found : fields.lookup name = some document) :
    fields.orDefault? name default decode = decode document := by
  rw [orDefault?, found]

/-- A field that is left out when absent is read as it was. -/
theorem optional?_of_lookup {form : α → Json} {value : Option α}
    (found : fields.lookup name = value.map form)
    (reads : ∀ value, nullable? decode (form value) = some (some value)) :
    fields.optional? name decode = some value := by
  rw [optional?, orDefault?, found]
  cases value with
  | none => rfl
  | some value => exact reads value

theorem optional?_text_of_lookup {value : Option String}
    (found : fields.lookup name = value.map (settled ∘ text)) :
    fields.optional? name text? = some value :=
  optional?_of_lookup found fun _ => rfl

theorem optional?_bool_of_lookup {value : Option Bool}
    (found : fields.lookup name = value.map (settled ∘ Json.bool)) :
    fields.optional? name bool? = some value :=
  optional?_of_lookup found fun _ => rfl

/-- A list that is left out when empty is read as it was, when its items are. -/
theorem orDefault?_list_of_lookup {encode : α → Json} {items : List α}
    (found : fields.lookup name = (if items.isEmpty then none else some items).map fun items =>
      settled (.array (items.map encode)))
    (reads : listOf? decode (settled (.array (items.map encode))) = some items) :
    fields.orDefault? name [] (listOf? decode) = some items := by
  rw [orDefault?, found]
  cases items with
  | nil => rfl
  | cons item items => exact reads

/-- A number that is not finite is written as an absent value. -/
theorem optional?_float_of_lookup {value : Option Float}
    (found : fields.lookup name = value.map (settled ∘ real)) :
    fields.optional? name float? = some (value.filter Float.isFinite) := by
  rw [optional?, orDefault?, found]
  cases value with
  | none => rfl
  | some value =>
      change nullable? float? (settled (real value)) = _
      rw [settled, Option.filter]
      split <;> rfl

end Fields

/-- A record with a single text behind its tag is read as this text. -/
theorem Carries.single {tag : Json} {name value : String}
    (carries : Carries [name] document [("type", tag), (name, .text value)])
    (other : name ≠ "type") :
    ∃ fields, Json.recordFields? [name] document = some fields ∧
      fields.required? name text? = some value := by
  obtain ⟨fields, found, looked⟩ := carries.recordFields?
  have looked := looked name (List.mem_cons_self ..)
  rw [List.lookup_cons, beq_false_of_ne other, List.lookup_cons_self] at looked
  refine ⟨fields, found, ?_⟩
  rw [Fields.required?_of_lookup looked]
  rfl

/-- A list is read from its canonical form when each item is. -/
theorem listOf?_settled {α : Type} {decode : Json → Option α} {encode : α → Json} {items : List α}
    (each : ∀ item ∈ items, decode (encode item).settled = some item) :
    listOf? decode (settled (.array (items.map encode))) = some items := by
  rw [settled, settledItems_eq_map, List.map_map, listOf?, List.mapM_map]
  exact (mapM_eq_some each).trans (congrArg some (List.map_id items))

end Json

end VisualNovel
