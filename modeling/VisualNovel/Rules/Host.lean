import VisualNovel.Value

/-!
# Hosts of rules

Rules watch and change a game through a host. The host reads paths, knows the location and the
story, and performs what rules ask for.
-/

namespace VisualNovel

/-- How serious a notification is. -/
inductive Severity where
  /-- Something to know. -/
  | info
  /-- Something that went well. -/
  | success
  /-- Something to beware of. -/
  | warning
  /-- Something that threatens. -/
  | danger
  deriving DecidableEq

/-- A message to the player outside the story. -/
structure Notification where
  /-- The text. -/
  text : String
  /-- How serious it is. -/
  severity : Severity
  /-- For how many milliseconds it is shown. -/
  duration : Option Nat
  deriving DecidableEq

namespace Severity

/-- The name of the severity. -/
def name : Severity → String
  | .info => "info"
  | .success => "success"
  | .warning => "warning"
  | .danger => "danger"

/-- All severities. -/
def all : List Severity := [.info, .success, .warning, .danger]

end Severity

/-- What rules need of a game. -/
class RuleHost (σ : Type) where
  /-- Reads a path. -/
  read : σ → String → Option Value
  /-- The location of the player. -/
  location : σ → Option Value
  /-- The identifier of the story unit that runs. -/
  activeStory : σ → Option String
  /-- Whether a story runs. -/
  isPlaying : σ → Bool
  /-- Writes to a path. -/
  write : σ → String → Value → σ
  /-- Redirects the story. -/
  goto : σ → String → σ
  /-- Ends the story. -/
  endStory : σ → σ
  /-- Restarts the story, in another unit when one is given. -/
  restart : σ → Option String → σ
  /-- Shows a line over what is on screen. -/
  showLine : σ → Option String → String → σ
  /-- Sends a notification. -/
  notify : σ → Notification → σ

end VisualNovel
