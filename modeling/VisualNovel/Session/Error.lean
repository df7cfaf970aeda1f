import VisualNovel.Rules.Engine
import VisualNovel.Saves.Error

/-!
# Failures of a session
-/

namespace VisualNovel

/-- Why an operation of a session failed. -/
inductive SessionError where
  /-- The story could not go on. -/
  | story (cause : StoryError)
  /-- A game could not be saved or loaded. -/
  | save (cause : SaveError)
  /-- Rules were refused. -/
  | rule (cause : RuleError)
  /-- The file is no configuration. -/
  | configuration (path : String)
  /-- A file could not be read. -/
  | unreadable (path : String) (cause : DiskError)
  deriving DecidableEq

namespace SessionError

/-- The wording of an error. -/
def message : SessionError → String
  | .story cause => cause.message
  | .save cause => cause.message
  | .rule cause => cause.message
  | .configuration path =>
    "invalid configuration " ++ path ++ ": the document does not have the expected form"
  | .unreadable path cause => "failed to read " ++ path ++ ": " ++ cause.message

end SessionError

end VisualNovel
