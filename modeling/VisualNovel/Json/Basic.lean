/-!
# Documents

A document is a tree of the JSON data model. Members keep the order and the repetitions of the
text, and whole numbers stay apart from reals, because the readers of the library's records tell
them apart.
-/

namespace VisualNovel

/-- A tree of the JSON data model. -/
inductive Json where
  /-- The absent value. -/
  | null
  /-- A truth value. -/
  | bool (value : Bool)
  /-- A number written as a whole number within the range of machine words. -/
  | integer (value : Int)
  /-- Any other number. -/
  | real (value : Float)
  /-- A text. -/
  | text (value : String)
  /-- A list of trees. -/
  | array (items : List Json)
  /-- Named trees in the order of the text. -/
  | object (members : List (String × Json))
  /-- A well-formed piece that stands for no value: a number beyond the range of doubles, an
  unpaired surrogate, or nesting beyond the limit. It may be skipped but not read. -/
  | unreadable

namespace Json

instance : Inhabited Json := ⟨.null⟩

mutual

/-- Whether no piece of the tree is unreadable. -/
def isReadable : Json → Bool
  | .array items => areReadable items
  | .object members => membersReadable members
  | .unreadable => false
  | _ => true

/-- Whether no item is unreadable. -/
def areReadable : List Json → Bool
  | [] => true
  | item :: items => item.isReadable && areReadable items

/-- Whether no member is unreadable. -/
def membersReadable : List (String × Json) → Bool
  | [] => true
  | (_, value) :: members => value.isReadable && membersReadable members

end

end Json

end VisualNovel
