import VisualNovel.Interpreter.Basic

/-!
# Failures of saving and loading
-/

namespace VisualNovel

/-- Why a game could not be saved or loaded. -/
inductive SaveError where
  /-- A number at the path is not finite. -/
  | nonSerializable (path : String)
  /-- The slot is empty. -/
  | slotNotFound (slot : Nat)
  /-- The story could not go on. -/
  | story (cause : StoryError)
  /-- A file of the store could not be read or written. -/
  | disk (path : String) (cause : DiskError)
  deriving DecidableEq

namespace SaveError

/-- The wording of an error. -/
def message : SaveError → String
  | .nonSerializable path => "save state is not serializable at " ++ path
  | .slotNotFound slot => "save slot " ++ toString slot ++ " is empty"
  | .story cause => cause.message
  | .disk path cause => "save I/O failed for " ++ path ++ ": " ++ cause.message

end SaveError

end VisualNovel
